import Phomemo.Bridge.AutoOff

/-!
# Timers before use

A run in which the bridge dials its printers itself writes to none of them, other than while it
connects, before the auto-off timer of the connection is settled.  A session that reconnects its
printer does not.
-/

namespace Phomemo

open Async Coroutine

namespace AutoOff

/-- What a command keeps as long as the bridge dials its printers itself. -/
abbrev Watched (minutes : Int) (handled : Option CommandName) :
    World → List TraceEvent → Prop :=
  AsLongAs LinkedByBridge (Kept minutes handled)

section Links

variable {env : Env} {minutes : Int} {handled : Option CommandName} {count : Nat} {w after : World}
  {past : List TraceEvent} {rely : TraceEvent → Prop} {p : PrinterId}

/-! ## Dialing outside of a connect -/

theorem dialed_connecting (past : List TraceEvent) (p : PrinterId) (address : String)
    (overlapped : Bool) :
    connecting (past ++ [.dialed p address overlapped]) = connecting past := by
  rw [connecting_concat]
  rfl

theorem dialed_handling (past : List TraceEvent) (p : PrinterId) (address : String)
    (overlapped : Bool) :
    handling (past ++ [.dialed p address overlapped]) = handling past := by
  rw [handling_concat]
  rfl

/-- Inside a connect, any printer may be dialed. -/
theorem going_link (p : PrinterId) :
    LinkStable rely (Going handled count) p fun _ _ => True where
  awaken := by
    intro w past answer going _
    have awaited := World.awaited_awaken (w := w) answer
    apply (going.move awaited.printer awaited.nextPrinter.ge).append
    exact fun event member => still_await (World.awakening_events answer event member)
  quiet := fun _ _ _ quiet going => going.move quiet.printer quiet.nextPrinter.ge
  event := fun _ _ _ wire going _ => going.note (still_wire wire)
  wrote := fun _ _ _ _ going _ _ _ => going.note (still_of_isStill rfl)
  lost := by
    intro w past going _
    have lowered : Going handled count (w.setConnected p false) past := going.move rfl le_rfl
    exact lowered.note (still_of_isStill rfl)
  downed := fun _ _ going => going.move rfl le_rfl
  hungUp := fun _ _ going => going.move rfl le_rfl
  unset := fun _ _ going => going.move rfl le_rfl
  dialed := by
    intro w past device going _ _
    refine ⟨going.allocated, ?_, ?_⟩
    · rw [dialed_handling]
      exact going.handling
    · rw [dialed_connecting]
      exact going.connecting
  up := fun _ _ going => going.move rfl le_rfl
  negotiated := fun _ _ _ _ going => going.move rfl le_rfl
  named := fun _ _ _ going _ => going.move rfl le_rfl
  learned := fun _ => trivial
  sought := fun _ _ _ => trivial
  handed := fun _ => trivial
  resolved := fun _ _ _ _ going _ => going.note (still_of_isStill rfl)

/-- A printer dialed outside of a connect is not dialed by the bridge. -/
theorem watched_connectDevice (alone : handled ≠ some .discover) (device : Device) :
    Keeps rely (Watched minutes handled) (BleTransport.connect p device) := by
  intro w past watched
  apply Ensures.asLongAs
  intro all
  have kept := watched all
  by_cases outside : connecting past = 0
  · apply Ensures.read_bind
    apply Ensures.ite
    · exact fun _ => Ensures.raise ⟨watched, trivial⟩
    · intro _
      apply Ensures.bind
      apply Ensures.read_bind
      apply Ensures.modify_bind
      apply Ensures.emit
      intro _
      have broken : ¬Throughout LinkedByBridge
          (past ++ [.dialed p device.address (p ∈ w.bridge.holdInFlight)]) := by
        intro all
        rcases all.last with inside | discovering
        · exact absurd outside inside.ne'
        · exact alone (kept.handling.symm.trans discovering)
      apply Ensures.of_broken broken
      · exact fun _ _ _ never all => absurd all never
      · exact fun _ _ _ never => ⟨fun all => absurd all never, trivial⟩
      · exact fun _ _ never all => absurd all never
  · obtain ⟨depth, inside⟩ := Nat.exists_eq_succ_of_ne_zero outside
    have going : Going handled (depth + 1) w past := ⟨kept.allocated, kept.handling, inside⟩
    apply ((going_link p).connectDevice going trivial).mono
    · exact fun _ _ _ going _ => going.kept
    · exact fun _ _ _ failed => ⟨fun _ => failed.1.kept, trivial⟩
    · exact fun _ _ going _ => going.kept

theorem watched_disconnect (p : PrinterId) :
    Keeps rely (Watched minutes handled) (BleTransport.disconnect p) := by
  apply Upholds.read_bind
  intro w past watched
  apply Ensures.ite
  · intro _
    have lowered : Watched minutes handled (w.setConnected p false) past :=
      fun all => (watched all).lower p
    apply Ensures.modify_bind
    apply ensures_tick_bind lowered
    intro answer relied
    have awaited := World.awaited_awaken (w := w.setConnected p false) answer
    have events : ∀ event ∈ (w.setConnected p false).awakening answer, event.OfAwait :=
      World.awakening_events answer
    have gone : Watched minutes handled (((w.setConnected p false).awaken answer).hangUp p)
        (past ++ (w.setConnected p false).awakening answer) := by
      intro all
      apply (lowered all.of_append).extend (dims_awaited (awaited.trans (World.awaited_hangUp p)))
      · exact fun event member => still_await (events event member)
      · exact List.cons_ne_nil _ _
      · exact fun p => unwritten_await events
    apply Ensures.modify_bind
    cases answer.bleakError with
    | none => exact Ensures.pure gone
    | some text =>
        apply Ensures.emit_bind
        intro _
        apply Ensures.raise
        refine ⟨fun all => ?_, trivial⟩
        exact (gone all.of_concat).note (dims_awaited (.refl _))
          (still_of_isStill rfl) fun _ _ _ same => by cases same
  · exact fun _ => Ensures.pure watched

/-- A reconnect without the bridge is no connection of the bridge. -/
theorem watched_device (alone : handled ≠ some .discover) (p : PrinterId) :
    DeviceStable env rely (Watched minutes handled) p where
  toWireStable := (Kept.wire p).asLongAs
  disconnect := watched_disconnect p
  connect := by
    intro w past watched
    have idle : IdleStable rely (Watched minutes handled) := Kept.idle.asLongAs
    apply ensures_connect idle
    · intro w past change kept watched all
      have unchanged : ∀ q, ((w.setPrinter p change).printers q).transport =
          (w.printers q).transport := by
        intro q
        rw [World.setPrinter_printers]
        split
        · next same => rw [(kept _).1, same]
        · rfl
      apply (watched all).move
      · refine ⟨rfl, le_rfl, fun q _ connected => ?_⟩
        rw [World.isConnected, unchanged] at connected
        rw [unchanged]
        exact ⟨connected, rfl⟩
      · exact fun q _ => by rw [unchanged]
    · exact fun w past asked found watched _ all => (watched all.of_concat).note
        (dims_awaited (.refl _)) (still_of_isStill rfl) fun _ _ _ same => by cases same
    · exact fun _ _ _ watched => ⟨watched, trivial⟩
    · exact fun _ _ => id
    · exact fun _ _ device watched => watched_connectDevice alone device _ _ watched
    · exact watched

/-- A connect of the bridge settles its connection, if it was settled or none. -/
theorem watched_connect (configured : env.autoOffMinutes = some minutes) (valid : Valid minutes)
    (address model : Option String) :
    Keeps rely (Watched minutes handled) (Bridge.connect env address model) := by
  intro w past watched
  apply Ensures.asLongAs
  intro all
  apply (kept_connect configured valid address model w past (watched all)).mono
  · exact fun _ _ _ kept _ => kept
  · exact fun _ _ _ failed => ⟨fun _ => failed.1, trivial⟩
  · exact fun _ _ kept _ => kept

end Links

/-! ## Commands -/

section Commands

variable {env : Env} {minutes : Int} {handled : Option CommandName} {w : World}
  {past : List TraceEvent} {rely : TraceEvent → Prop}

namespace Watched

theorem note {event : TraceEvent} (watched : Watched minutes handled w past) (still : Still event)
    (silent : ∀ p address data, event ≠ .wrote p address data) :
    Watched minutes handled w (past ++ [event]) :=
  fun all => (watched all.of_concat).note (dims_awaited (.refl w)) still silent

/-- The handlers of all commands but `discover`. -/
theorem handlers (configured : env.autoOffMinutes = some minutes) (valid : Valid minutes)
    (alone : handled ≠ some .discover) :
    HandlerStable env rely fun _ => Watched minutes handled where
  idle := fun _ => Kept.idle.asLongAs
  hold := fun _ _ _ _ watched _ => watched
  letGo := fun _ _ _ _ => id
  marked := fun _ _ _ watched all => (watched all).aside rfl rfl rfl
  event := fun _ _ _ _ waits watched _ => watched.note (still_waits waits) (silent_waits waits)
  device := fun _ p _ => watched_device alone p
  connect := fun _ => watched_connect configured valid none none
  page := fun _ _ _ _ page watched _ => watched.note (still_page page) (silent_page page)
  streamed := fun _ _ _ _ _ client data watched writable _ all =>
    (watched all.of_concat).wrote client.address data writable

theorem cmdOpen (configured : env.autoOffMinutes = some minutes) (valid : Valid minutes)
    (address model : Option String) :
    Keeps rely (Watched minutes handled) (Session.cmdOpen env address model) := by
  have connects : Keeps rely (Watched minutes handled) (do
      Bridge.connect env address model
      return none : Py (Option PyExc)) :=
    Upholds.bind (watched_connect configured valid address model) fun _ => Upholds.pure _
  have answers : ∀ connected, Keeps rely (Watched minutes handled)
      (Coroutine.emit (.openAnswered address model connected)) :=
    fun connected => Upholds.emit fun _ _ watched _ =>
      watched.note (still_of_isStill rfl) fun _ _ _ same => by cases same
  have uses : Keeps rely (Watched minutes handled) Session.useLink :=
    Upholds.modify fun w _ watched all => Kept.aside (watched all) rfl rfl rfl
  apply Upholds.bind uses
  intro _
  apply Upholds.bind
  · apply Upholds.handle connects
    intro exc _
    apply Upholds.ite
    · exact fun _ => Upholds.pure _
    · exact fun _ => Upholds.raise trivial
  · rintro (_ | exc)
    · apply Upholds.bind Upholds.read
      intro w
      cases w.bridge.printer with
      | some p => exact Upholds.bind (answers true) fun _ => Upholds.pure _
      | none => exact Upholds.raise trivial
    · exact Upholds.bind (answers false) fun _ => Upholds.pure _

end Watched

/-! ### Scans for printers -/

/-- While `discover` asks a printer for its serial, the bridge does not hold that printer. -/
abbrev Probing (minutes : Int) (q : PrinterId) (w : World) (past : List TraceEvent) : Prop :=
  Kept minutes (some .discover) w past ∧ w.bridge.printer ≠ some q

theorem Probing.setPrinter {q : PrinterId} (probing : Probing minutes q w past)
    (change : Printer → Printer) : Probing minutes q (w.setPrinter q change) past := by
  refine ⟨probing.1.move (dims_elsewhere probing.2 change) fun p held => ?_, probing.2⟩
  have other : p ≠ q := fun same => probing.2 (same ▸ held)
  rw [World.setPrinter_printers, if_neg other]

/-- A printer the bridge does not hold is dialed. -/
theorem Probing.dialed {q : PrinterId} (probing : Probing minutes q w past) (address : String)
    (overlapped : Bool) : Probing minutes q w (past ++ [.dialed q address overlapped]) := by
  refine ⟨{ probing.1 with handling := ?_, settled := ?_, first := ?_ }, probing.2⟩
  · rw [dialed_handling]
    exact probing.1.handling
  · rw [dialed_connecting]
    intro outside p held connected
    apply (probing.1.settled outside p held connected).append
    intro dialed overlapped member
    cases List.mem_singleton.mp member
    exact probing.2 held
  · exact timerFirst_append (List.cons_ne_nil _ _) (by simp [Unwritten])

theorem probing_wire (q : PrinterId) : WireStable rely (Probing minutes q) q where
  awaken := fun w past answer probing relied =>
    ⟨Kept.idle.awaken w past answer probing.1 relied, by
      rw [(World.awaited_awaken (w := w) answer).printer]
      exact probing.2⟩
  quiet := fun w after past quiet probing =>
    ⟨probing.1.move (dims_quiet quiet) fun p _ => quiet.chunk p, by
      rw [quiet.printer]
      exact probing.2⟩
  event := fun _ _ _ wire probing _ => ⟨probing.1.note (dims_awaited (.refl _))
    (still_wire wire) (silent_wire wire), probing.2⟩
  wrote := fun _ _ client data probing writable _ _ =>
    ⟨probing.1.wrote client.address data writable, probing.2⟩
  lost := fun _ _ probing _ => ⟨(probing.1.lower q).note (dims_awaited (.refl _))
    (still_of_isStill rfl) (fun _ _ _ same => by cases same), probing.2⟩

theorem probing_link (q : PrinterId) :
    LinkStable rely (Probing minutes q) q fun _ _ => True := by
  apply LinkStable.elsewhere (probing_wire q)
  · exact fun _ _ change probing => probing.setPrinter change
  · exact fun _ _ _ probing => ⟨probing.1.aside rfl rfl rfl, probing.2⟩
  · exact fun _ _ address overlapped probing _ => probing.dialed address overlapped
  · exact fun _ _ _ _ probing _ => ⟨probing.1.note (dims_awaited (.refl _))
      (still_of_isStill rfl) (fun _ _ _ same => by cases same), probing.2⟩

theorem probes (env : Env) :
    ProbeStable env rely (fun _ => Kept minutes (some .discover)) (Probing minutes) where
  idle := fun _ => Kept.idle
  hold := fun _ _ _ _ kept _ => kept
  letGo := fun _ _ _ _ => id
  marked := fun _ _ _ kept => kept.aside rfl rfl rfl
  event := fun _ _ _ _ waits kept _ =>
    kept.note (dims_awaited (.refl _)) (still_waits waits) (silent_waits waits)
  wire := Kept.wire
  probed := by
    intro w past device profile kept _
    have free : w.bridge.printer ≠ some w.nextPrinter := fun held =>
      absurd (kept.allocated _ held) (lt_irrefl _)
    have made : Probing minutes w.nextPrinter
        (w.setPrinter w.nextPrinter fun _ => Printer.new profile (some (.device device))) past :=
      Probing.setPrinter ⟨kept, free⟩ _
    exact ⟨{ made.1 with allocated := fun p held => Nat.lt_succ_of_lt (made.1.allocated p held) },
      free⟩
  probe := fun q => (probing_link q).device env
  left := fun _ _ _ => And.left

/-! ## Runs -/

/-- Timers stay settled between commands, and in each of them. -/
theorem watched_runs (configured : env.autoOffMinutes = some minutes) (valid : Valid minutes) :
    RunStable env rely (Watched minutes none) (fun command => Watched minutes (some command.name))
      (Watched minutes none) (AsLongAs LinkedByBridge (TimerFirst minutes)) where
  idle := Kept.idle.asLongAs
  begins := by
    apply Upholds.modify
    intro w past watched all
    split
    · exact watched all
    · exact (watched all).aside rfl rfl rfl
  finishes := by
    have timer : KeptByTimer (Watched minutes none) :=
      fun _ _ _ watched all => (watched all).aside rfl rfl rfl
    apply timer.finish
    · exact fun _ _ watched all => (watched all).aside rfl rfl rfl
    · exact fun _ _ watched _ => watched.note (still_of_isStill rfl) fun _ _ _ same => by cases same
  accepted := by
    intro w past command watched _ all
    have kept := watched all.of_concat
    exact {
      allocated := kept.allocated
      handling := handling_concat past _
      settled := by
        rw [connecting_concat]
        intro outside p held connected
        exact (kept.settled outside p held connected).append (by simp [Undialed, commandStart])
      first := timerFirst_append (List.cons_ne_nil _ _) (by simp [Unwritten, commandStart]) }
  handled := by
    intro command w past watched
    have keeps : ∀ {program : Py Result},
        Keeps rely (Watched minutes (some command.name)) program → Ensures rely program
          ⟨fun _ => Watched minutes (some command.name),
            fun _ => Watched minutes (some command.name),
            AsLongAs LinkedByBridge (TimerFirst minutes)⟩ w past :=
      fun keeps => keeps.ensures watched (fun _ _ _ => id) (fun _ _ _ watched _ => watched)
        fun _ _ watched all => (watched all).first
    by_cases discovers : command.name = .discover
    · cases command with
      | discover timeout =>
          apply keeps
          intro w past watched
          apply Ensures.asLongAs
          intro all
          apply ((probes env).cmdDiscover timeout w past (watched all)).mono
          · exact fun _ _ _ kept _ => kept
          · exact fun _ _ _ failed => ⟨fun _ => failed.1, trivial⟩
          · exact fun _ _ kept _ => kept
      | _ => cases discovers
    · have handlers : HandlerStable env rely fun _ => Watched minutes (some command.name) :=
        Watched.handlers configured valid fun same => discovers (Option.some.inj same)
      have timer : KeptByTimer (Watched minutes (some command.name)) :=
        fun _ _ _ watched all => (watched all).aside rfl rfl rfl
      apply handlers.handler
      · exact fun _ _ watched all => (watched all).first
      · exact fun address model _ => keeps (Watched.cmdOpen configured valid address model)
      · exact fun _ => timer.cmdClose env fun _ _ watched _ =>
          watched.note (still_of_isStill rfl) fun _ _ _ same => by cases same
      · exact fun _ => @WaitStable.cmdDisconnect _ _ _ [] handlers.toWaitStable
          (fun _ _ watched all => (watched all).aside rfl rfl rfl)
          fun _ _ watched all => (watched all).aside rfl rfl rfl
      · rintro timeout rfl
        exact absurd rfl discovers
      · exact watched
  replied := by
    intro w past command reply watched _ all
    have kept := watched all.of_concat
    exact {
      allocated := kept.allocated
      handling := handling_concat past _
      settled := by
        rw [connecting_concat]
        intro outside p held connected
        exact (kept.settled outside p held connected).append (by simp [Undialed])
      first := timerFirst_append (List.cons_ne_nil _ _) (by simp [Unwritten]) }
  answers := Kept.idle.asLongAs
  cleared := fun _ _ watched all => (watched all).aside rfl rfl rfl
  resting := fun _ _ watched all => (watched all).first
  finishing := fun _ _ watched all => (watched all).first

end Commands

/-- In a run where the bridge dials its printers itself, nothing is written to its printer over a
connection before the timer of the connection is settled, other than while the bridge connects. -/
theorem timer_precedes_use (env : Env) (minutes : Int)
    (configured : env.autoOffMinutes = some minutes) (valid : Valid minutes) (w : World)
    (fresh : w.bridge = {}) (moves : List Session.Move) (script : List Tick)
    (linked : Throughout LinkedByBridge (Session.runMoves env moves w script).trace) :
    TimerFirst minutes (Session.runMoves env moves w script).ending.state
      (Session.runMoves env moves w script).trace := by
  have start : Watched minutes none w [] := by
    intro _
    have printerless : w.bridge.printer = none := by rw [fresh]
    refine ⟨?_, rfl, fun _ p held => ?_, ?_⟩
    · exact fun p held => nomatch printerless.symm.trans held
    · exact nomatch printerless.symm.trans held
    · exact fun before _ _ _ split => absurd split (by simp)
  have runs : RunStable env (fun _ => True) (Watched minutes none)
      (fun command => Watched minutes (some command.name)) (Watched minutes none)
      (AsLongAs LinkedByBridge (TimerFirst minutes)) := watched_runs configured valid
  exact runs.always moves start (fun _ _ => trivial) linked

/-- The write that comes last. -/
def lastWrite (past : List TraceEvent) : Option (PrinterId × String × Bytes) :=
  match past.getLast? with
  | some (.wrote p address data) => some (p, address, data)
  | _ => none

/-- The timer of a printer is to be half an hour. -/
def timedStrip : Env := { stripEnv with autoOffMinutes := some 30 }

/-- A session opens the bridge and ejects. -/
def openedToEject : Run PyExc World Tick TraceEvent Unit :=
  Session.runMoves timedStrip [.begins, .command (.open none none), .command .eject] freshWorld
    (scanned :: List.replicate 8 {})

/-- The eject has asked for the paper when the run ends. -/
theorem timer_precedes_use_strip :
    lastWrite openedToEject.trace = some (0, "S", QueryCommand.paperState.bytes) ∧
      openedToEject.ending.state.bridge.printer = some 0 ∧
      connecting openedToEject.trace.dropLast = 0 ∧
      TimerFirst 30 openedToEject.ending.state openedToEject.trace := by
  have linked : Throughout LinkedByBridge openedToEject.trace := by decide +kernel
  refine ⟨by decide +kernel, by decide +kernel, by decide +kernel, ?_⟩
  exact timer_precedes_use timedStrip 30 rfl ⟨by decide, by decide, by decide⟩ freshWorld rfl _ _
    linked

/-! ## A printer reconnected without the bridge -/

/-- What an event tells about whether the timer of the connection was asked for. -/
def asks (p : PrinterId) (asked : Bool) : TraceEvent → Bool
  | .dialed q _ _ => asked && q ≠ p
  | .wrote q _ data => asked || (q = p && data = QueryCommand.deviceTimer.bytes)
  | _ => asked

theorem foldl_asks {p : PrinterId} {later : List TraceEvent} (undialed : Undialed p later) :
    later.foldl (asks p) true = true := by
  induction later with
  | nil => rfl
  | cons event later ih =>
      have rest : Undialed p later :=
        fun address overlapped member => undialed address overlapped (.tail _ member)
      have stays : asks p true event = true := by
        cases event with
        | dialed q address overlapped =>
            have other : q ≠ p :=
              fun same => undialed address overlapped (same ▸ List.mem_cons_self)
            simp [asks, other]
        | _ => rfl
      rw [List.foldl_cons, stays]
      exact ih rest

/-- A settled connection whose writes hold the query was asked for its timer. -/
theorem Timed.asked {minutes chunk : Int} {p : PrinterId} {past : List TraceEvent}
    (timed : Timed minutes chunk p past) (fits : 3 ≤ chunk) :
    past.foldl (asks p) false = true := by
  obtain ⟨before, address, overlapped, since, rfl, undialed, settled⟩ := timed
  obtain ⟨asking, asked, answering, rfl, -⟩ := settled fits
  have answered : Undialed p answering :=
    fun address overlapped member => undialed address overlapped
      (List.mem_append_right _ (List.mem_cons_of_mem _ member))
  simp only [List.foldl_append, List.foldl_cons]
  have query : ∀ before, asks p before (.wrote p asked QueryCommand.deviceTimer.bytes) = true := by
    simp [asks]
  rw [query]
  exact foldl_asks answered

theorem eq_concat_of_lastWrite {past : List TraceEvent} {p : PrinterId} {address : String}
    {data : Bytes} (last : lastWrite past = some (p, address, data)) :
    past = past.dropLast ++ [.wrote p address data] := by
  unfold lastWrite at last
  split at last
  · next found =>
      cases last
      exact (List.dropLast_append_getLast? _ found).symm
  · cases last

/-- A session opens the bridge and asks for what a printer that has fallen silent tells about
itself. -/
def silentInfo : Run PyExc World Tick TraceEvent Unit :=
  Session.runMoves timedStrip [.begins, .command (.open none none), .command .info] freshWorld
    (scanned :: List.replicate 14 {})

/-- The printer is reconnected, and asked for its battery before its timer. -/
theorem reconnect_skips_timer : ¬TimerFirst 30 silentInfo.ending.state silentInfo.trace := by
  intro first
  have last : lastWrite silentInfo.trace = some (0, "S", QueryCommand.battery.bytes) := by
    decide +kernel
  have held : silentInfo.ending.state.bridge.printer = some 0 := by decide +kernel
  have outside : connecting silentInfo.trace.dropLast = 0 := by decide +kernel
  have fits : 3 ≤ (silentInfo.ending.state.printers 0).transport.effectiveChunkBytes := by
    decide +kernel
  have asked := (first _ 0 "S" _ (eq_concat_of_lastWrite last) held outside).asked fits
  have unasked : silentInfo.trace.dropLast.foldl (asks 0) false = false := by decide +kernel
  exact Bool.false_ne_true (unasked.symm.trans asked)

end AutoOff

end Phomemo
