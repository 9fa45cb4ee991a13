import Phomemo.Bridge.Discover
import Phomemo.Bridge.PageCommands

/-!
# Answered commands

`wait_ready` and `page_end` wait for a sheet as long as it takes.  Every other command is answered
after a bounded number of awaits, whatever the printers do and whatever state the bridge is in.
-/

namespace Phomemo

open Async Coroutine

/-! ## Queries and connections -/

theorem within_requirePrinter : Within 0 Session.requirePrinter := by
  apply Within.free_bind Within.read
  intro w
  cases w.bridge.printer with
  | none => exact Within.raise _
  | some p => exact Within.ite (Within.pure p) (Within.raise _)

theorem within_reconnect (env : Env) (p : PrinterId) : Within 6 (Printer.reconnect env p) :=
  Within.bind (BleTransport.within_disconnect p) fun _ => within_connect env p

theorem within_setAutoOffTimer (p : PrinterId) (minutes : Int) :
    Within 2 (Printer.setAutoOffTimer p minutes) := by
  apply Within.ite
  · exact (Within.raise _).mono (Nat.zero_le 2)
  · apply @Within.bind _ _ _ _ _ _ 1 1 _ _ (BleTransport.within_write p _)
    intro _
    cases encodeAutoOffTimer (minutes / 5) with
    | error exc => exact (Within.raise exc).mono (Nat.zero_le 1)
    | ok command => exact BleTransport.within_write p command

theorem within_queryAutoOff (p : PrinterId) : Within 2 (Printer.queryAutoOff p) :=
  Within.bind (within_query p .deviceTimer .timerEvent) fun _ => Within.pure _

theorem within_queryLid (p : PrinterId) : Within 2 (Printer.queryLid p) :=
  Within.bind (within_query p .lidState .lidEvent) fun _ => Within.pure _

theorem within_queryBattery (p : PrinterId) : Within 2 (Printer.queryBattery p) :=
  Within.bind (within_query p .battery .batteryEvent) fun _ => Within.pure _

/-- Six queries, of which the paper one depends on the lid. -/
theorem within_queryDeviceInfo (p : PrinterId) : Within 12 (Printer.queryDeviceInfo p) := by
  have firmware : Within 2 (Printer.queryFirmware p) :=
    Within.bind (within_query p .firmware .firmwareEvent) fun _ => Within.pure _
  have serial : Within 2 (Printer.querySerial p) :=
    Within.bind (within_query p .serialAscii .serialEvent) fun _ => Within.pure _
  apply @Within.bind _ _ _ _ _ _ 2 10 _ _ (within_queryBattery p)
  intro battery
  apply @Within.bind _ _ _ _ _ _ 2 8 _ _ firmware
  intro version
  apply @Within.bind _ _ _ _ _ _ 2 6 _ _ serial
  intro number
  apply @Within.bind _ _ _ _ _ _ 2 4 _ _ (within_queryLid p)
  intro lid
  apply Within.ite
  · apply @Within.bind _ _ _ _ _ _ 2 2 _ _ (within_queryPaper p)
    exact fun _ => Within.bind (within_queryAutoOff p) fun _ => Within.pure _
  · apply Within.free_bind (Within.pure none)
    intro _
    exact (Within.bind (within_queryAutoOff p) fun _ => Within.pure _).mono (by decide)

/-! ## The bridge's connection -/

namespace Bridge

theorem within_remember (address : Option String) (values : List (String × Json)) :
    Within 0 (remember address values) := by
  cases address with
  | none => exact Within.pure ()
  | some address => exact Within.modify _

theorem within_disconnect : Within 1 disconnect := by
  apply Within.free_bind (Within.modify _)
  intro _
  apply Within.free_bind Within.read
  intro w
  cases w.bridge.printer with
  | none => exact (Within.pure ()).mono (Nat.zero_le 1)
  | some p =>
      exact Within.ite (BleTransport.within_disconnect p) ((Within.pure ()).mono (Nat.zero_le 1))

theorem within_startHold (env : Env) : Within 0 (startHold env) := by
  apply Within.free_bind (Within.modify _)
  intro _
  apply Within.free_bind Within.read
  exact fun w => Within.ite (Within.modify _) (Within.pure ())

theorem within_factory (profile : PrinterProfile) (address : Option PrinterAddress) :
    Within 0 (factory profile address) :=
  Within.bind Within.read fun _ => Within.bind (Within.modify _) fun _ => Within.pure _

theorem within_scan (env : Env) : Within 1 (scan env) := by
  refine @Within.bind _ _ _ _ _ _ 1 0 _ _ ?_ fun _ => Within.pure _
  apply within_tick_bind
  intro answer
  cases answer.bleakError with
  | none =>
      cases env.registry.compile env.registry.joinedPattern with
      | ok search => exact Within.pure _
      | error text => exact Within.raise _
  | some text => exact Within.raise _

theorem within_newPrinter (env : Env) (address model : Option String) :
    Within 1 (newPrinter env address model) := by
  cases model with
  | some name =>
      unfold newPrinter
      dsimp only
      cases env.registry.getProfile name with
      | none => exact (Within.raise _).mono (Nat.zero_le 1)
      | some profile => exact (within_factory _ _).mono (Nat.zero_le 1)
  | none =>
      have looks : Within 1 (handle (scan env) fun exc => do
          emit (.lookedFor address false)
          raise exc) :=
        Within.handle (within_scan env) fun _ => Within.bind (Within.emit _) fun _ => Within.raise _
      apply @Within.bind _ _ _ _ _ _ 1 0 _ _ looks
      intro found
      cases pickDevice env address found with
      | error exc => exact Within.bind (Within.emit _) fun _ => Within.raise _
      | ok device =>
          apply Within.free_bind (Within.emit _)
          intro _
          unfold factoryForName
          cases env.registry.profileForName device.name none with
          | none => exact Within.raise _
          | some profile => exact within_factory _ _

theorem within_applySerial (env : Env) (p : PrinterId) (name : Option String) (serial : String) :
    Within 6 (applySerial env p name serial) := by
  apply Within.free_bind Within.read
  intro w
  apply Within.free_bind (within_remember _ _)
  intro _
  cases env.registry.profileForName name (some serial) with
  | none => exact (Within.pure ()).mono (Nat.zero_le 6)
  | some resolved =>
      apply Within.free_bind Within.read
      intro w
      have uses : Within 6 (Printer.useProfile p resolved) := by
        apply Within.free_bind Within.read
        intro w
        apply Within.ite
        · exact (Within.raise _).mono (Nat.zero_le 6)
        · exact (Within.bind (Within.modify _) fun _ => Within.emit _).mono (Nat.zero_le 6)
      apply Within.ite
      · exact (Within.pure ()).mono (Nat.zero_le 6)
      · apply Within.ite uses
        apply @Within.bind _ _ _ _ _ _ 1 5 _ _ (BleTransport.within_disconnect p)
        intro _
        apply Within.free_bind Within.read
        intro w
        apply Within.free_bind (within_factory _ _)
        intro q
        apply Within.free_bind (Within.modify _)
        intro _
        exact Within.free_bind (Within.emit _) fun _ => within_connect env q

theorem within_refineModel (env : Env) (p : PrinterId) : Within 8 (refineModel env p) := by
  apply Within.free_bind Within.read
  intro w
  apply Within.ite
  · apply @Within.bind _ _ _ _ _ _ 2 6 _ _ (within_querySerial p)
    intro serial
    cases serial with
    | none => exact (Within.pure ()).mono (Nat.zero_le 6)
    | some serial => exact within_applySerial env p _ serial
  · exact (Within.pure ()).mono (Nat.zero_le 8)

theorem within_applyAutoOff (env : Env) (p : PrinterId) : Within 4 (applyAutoOff env p) := by
  unfold applyAutoOff
  cases env.autoOffMinutes with
  | none => exact (Within.pure ()).mono (Nat.zero_le 4)
  | some wanted =>
      refine @Within.handle _ _ _ _ _ 4 0 _ _ ?_ fun _ => Within.pure ()
      apply @Within.bind _ _ _ _ _ _ 2 2 _ _ (within_queryAutoOff p)
      intro current
      have notes : Within 0 (do
          let w ← read
          remember (w.printers p).addressText [("auto_off_minutes", .int wanted)]) :=
        Within.bind Within.read fun _ => within_remember _ _
      apply Within.ite
      · exact Within.bind (within_setAutoOffTimer p wanted) fun _ => notes
      · exact notes.mono (Nat.zero_le 2)

theorem within_connectHeld (env : Env) : Within 17 (connectHeld env) := by
  apply Within.free_bind Within.read
  intro w
  cases w.bridge.printer with
  | none => exact (Within.raise _).mono (Nat.zero_le 17)
  | some p =>
      apply @Within.bind _ _ _ _ _ _ 5 12 _ _ (within_connect env p)
      intro _
      apply @Within.bind _ _ _ _ _ _ 8 4 _ _ (within_refineModel env p)
      intro _
      exact Within.free_bind Within.read fun w => within_applyAutoOff env _

theorem within_establish (env : Env) (address model : Option String) :
    Within 19 (establish env address model) := by
  have releases : Within 1 (release address model) := by
    apply Within.free_bind Within.read
    intro w
    cases w.bridge.printer with
    | none => exact (Within.pure ()).mono (Nat.zero_le 1)
    | some p =>
        apply Within.ite
        · exact Within.bind within_disconnect fun _ => Within.modify _
        · exact (Within.pure ()).mono (Nat.zero_le 1)
  have acquires : Within 1 (acquire env address model) := by
    apply Within.free_bind Within.read
    intro w
    apply Within.ite
    · exact Within.bind (within_newPrinter env address model) fun _ => Within.modify _
    · exact (Within.pure ()).mono (Nat.zero_le 1)
  have links : Within 19 (do
      release address model
      let w ← read
      if w.bridgeConnected then
        pure ()
      else
        acquire env address model
        connectHeld env) := by
    apply @Within.bind _ _ _ _ _ _ 1 18 _ _ releases
    intro _
    apply Within.free_bind Within.read
    intro w
    apply Within.ite
    · exact (Within.pure ()).mono (Nat.zero_le 18)
    · exact @Within.bind _ _ _ _ _ _ 1 17 _ _ acquires fun _ => within_connectHeld env
  apply Within.free_bind (Within.modify _)
  intro _
  cases model with
  | none => exact links
  | some name => exact Within.ite (Within.free_bind (Within.raise _) fun _ => links) links

theorem within_connect (env : Env) (address model : Option String) :
    Within 19 (connect env address model) := by
  apply Within.free_bind Within.read
  intro w
  apply Within.free_bind (Within.emit _)
  intro _
  have establishes : Within 19 (handle (establish env address model) fun exc => do
      emit (.connectRaised exc)
      raise exc) :=
    @Within.handle _ _ _ _ _ 19 0 _ _ (within_establish env address model) fun _ =>
      Within.bind (Within.emit _) fun _ => Within.raise _
  exact @Within.bind _ _ _ _ _ _ 19 0 _ _ establishes fun _ =>
    Within.bind Within.read fun _ => Within.emit _

end Bridge

/-! ## Commands -/

namespace Session

theorem within_connectFor (env : Env) : Within 19 (connectFor env) := by
  apply Within.free_bind Within.read
  intro w
  apply Within.ite
  · exact @Within.handle _ _ _ _ _ 19 0 _ _ (Bridge.within_connect env none none) fun _ =>
      Within.ite (Within.raise _) (Within.raise _)
  · exact (Within.pure ()).mono (Nat.zero_le 19)

theorem within_answeringPrinter (env : Env) : Within 8 (answeringPrinter env) := by
  apply Within.free_bind within_requirePrinter
  intro p
  apply @Within.bind _ _ _ _ _ _ 2 6 _ _ (within_queryPaper p)
  intro paper
  have reconnects : Within 6 (orNotReachable (Printer.reconnect env p)) :=
    @Within.handle _ _ _ _ _ 6 0 _ _ (within_reconnect env p) fun _ =>
      Within.ite (Within.raise _) (Within.raise _)
  apply Within.ite
  · exact @Within.bind _ _ _ _ _ _ 6 0 _ _ reconnects fun _ => Within.pure p
  · exact (Within.pure p).mono (Nat.zero_le 6)

/-- The eject of the commands: 64 feeds at most. -/
theorem within_ejectPaper (p : PrinterId) : Within 133 (Printer.ejectPaper p) :=
  @within_eject p ⟨64, 120, 2, 160⟩ ⟨by decide, by decide⟩

theorem within_liveStatus (env : Env) : Within 14 (liveStatus env) := by
  apply @Within.bind _ _ _ _ _ _ 8 6 _ _ (within_answeringPrinter env)
  intro p
  apply @Within.bind _ _ _ _ _ _ 2 4 _ _ (within_queryLid p)
  intro lid
  apply @Within.bind _ _ _ _ _ _ 2 2 _ _ (within_queryPaper p)
  intro paper
  apply @Within.bind _ _ _ _ _ _ 2 0 _ _ (within_queryBattery p)
  intro battery
  apply Within.free_bind Within.read
  exact fun w => Within.bind (Bridge.within_remember _ _) fun _ => Within.pure _

/-- The eject and the three pulses of the feed. -/
theorem within_cmdIdentify (env : Env) : Within 175 (cmdIdentify env) := by
  have pulses : ∀ p, Within 12 (times 3 (do
      Printer.feed p 40
      let _ ← Printer.queryPaper p
      pause)) := by
    intro p
    refine @Within.times _ _ _ _ 4 _ ?_ 3
    apply @Within.bind _ _ _ _ _ _ 1 3 _ _ (within_feed p (by decide))
    exact fun _ => @Within.bind _ _ _ _ _ _ 2 1 _ _ (within_queryPaper p) fun _ => within_pause
  apply Within.free_bind (Within.modify _)
  intro _
  apply @Within.bind _ _ _ _ _ _ 19 156 _ _ (within_connectFor env)
  intro _
  apply @Within.bind _ _ _ _ _ _ 8 148 _ _ (within_answeringPrinter env)
  intro p
  apply @Within.bind _ _ _ _ _ _ 2 146 _ _ (within_queryPaper p)
  intro paper
  have finishes : Within 12 (do
      times 3 (do
        Printer.feed p 40
        let _ ← Printer.queryPaper p
        pause)
      return [] : Py Result) :=
    @Within.bind _ _ _ _ _ _ 12 0 _ _ (pulses p) fun _ => Within.pure _
  apply Within.ite
  · apply @Within.bind _ _ _ _ _ _ 133 13 _ _ (within_ejectPaper p)
    exact fun _ => @Within.bind _ _ _ _ _ _ 1 12 _ _ within_pause fun _ => finishes
  · exact finishes.mono (by decide)

theorem within_cmdTestPage (env : Env) : Within 41 (cmdTestPage env) := by
  have threads : Within 1 runThread := by
    apply within_tick_bind
    intro answer
    cases answer.threadError with
    | none => exact Within.pure ()
    | some exc => exact Within.raise exc
  apply Within.free_bind (Within.modify _)
  intro _
  apply @Within.bind _ _ _ _ _ _ 19 22 _ _ (within_connectFor env)
  intro _
  apply @Within.bind _ _ _ _ _ _ 8 14 _ _ (within_answeringPrinter env)
  intro p
  apply @Within.bind _ _ _ _ _ _ 12 2 _ _ (within_queryDeviceInfo p)
  intro info
  apply @Within.bind _ _ _ _ _ _ 1 1 _ _ threads
  exact fun _ => @Within.bind _ _ _ _ _ _ 1 0 _ _ threads fun _ => Within.pure _

theorem within_cmdOpen (env : Env) (address model : Option String) :
    Within 19 (cmdOpen env address model) := by
  apply Within.free_bind (Within.modify _)
  intro _
  have connects : Within 19 (handle
      (do
        Bridge.connect env address model
        return none)
      fun exc => if exc.IsConnectionError then return some exc else raise exc) :=
    @Within.handle _ _ _ _ _ 19 0 _ _
      (@Within.bind _ _ _ _ _ _ 19 0 _ _ (Bridge.within_connect env address model) fun _ =>
        Within.pure _)
      fun _ => Within.ite (Within.pure _) (Within.raise _)
  apply @Within.bind _ _ _ _ _ _ 19 0 _ _ connects
  intro refused
  cases refused with
  | some exc => exact Within.bind (Within.emit _) fun _ => Within.pure _
  | none =>
      apply Within.free_bind Within.read
      intro w
      cases w.bridge.printer with
      | none => exact Within.raise _
      | some p => exact Within.bind (Within.emit _) fun _ => Within.pure _

theorem within_cmdInfo (env : Env) : Within 20 (cmdInfo env) := by
  apply @Within.bind _ _ _ _ _ _ 8 12 _ _ (within_answeringPrinter env)
  intro p
  apply @Within.bind _ _ _ _ _ _ 12 0 _ _ (within_queryDeviceInfo p)
  intro info
  apply Within.free_bind Within.read
  exact fun w => Within.bind (Bridge.within_remember _ _) fun _ => Within.pure _

theorem within_cmdAutoOff (env : Env) (minutes : Json) : Within 12 (cmdAutoOff env minutes) := by
  apply @Within.bind _ _ _ _ _ _ 8 4 _ _ (within_answeringPrinter env)
  intro p
  have reads : Within 2 (do
      let current ← Printer.queryAutoOff p
      let w ← read
      Bridge.remember (w.printers p).addressText [("auto_off_minutes", .ofInt current)]
      return [("auto_off_minutes", .ofInt current)] : Py Result) := by
    apply @Within.bind _ _ _ _ _ _ 2 0 _ _ (within_queryAutoOff p)
    intro current
    apply Within.free_bind Within.read
    exact fun w => Within.bind (Bridge.within_remember _ _) fun _ => Within.pure _
  have refuses : ∀ exc, Within 4 (raise exc : Py Result) :=
    fun exc => (Within.raise exc).mono (Nat.zero_le 4)
  have other : ∀ shown : String, Within 4 (do
      raise (.commandError shown)
      let current ← Printer.queryAutoOff p
      let w ← read
      Bridge.remember (w.printers p).addressText [("auto_off_minutes", .ofInt current)]
      return [("auto_off_minutes", .ofInt current)] : Py Result) :=
    fun shown => (Within.free_bind (Within.raise _) fun _ => reads).mono (by decide)
  cases minutes with
  | null => exact reads.mono (by decide)
  | int minutes =>
      refine @Within.bind _ _ _ _ _ _ 2 2 _ _ ?_ fun _ => reads
      refine @Within.handle _ _ _ _ _ 2 0 _ _ (within_setAutoOffTimer p minutes) fun exc => ?_
      cases exc <;> exact Within.raise _
  | bool value => exact other _
  | float text => exact other _
  | str text => exact other _
  | arr items => exact other _
  | obj fields => exact other _

/-- The devices the next scan shows. -/
def nearby (script : List Tick) : Nat :=
  match script with
  | answer :: _ => answer.devices.length
  | [] => 0

/-- The awaits a command takes at most; waiting for a sheet has no bound. -/
def awaits (nearby : Nat) : Command → Option Nat
  | .discover _ => some (9 * nearby + 1)
  | .open _ _ => some 19
  | .close => some 0
  | .disconnect => some 1
  | .status _ => some 14
  | .info => some 20
  | .autoOff _ => some 12
  | .identify => some 175
  | .testPage => some 41
  | .waitReady _ => none
  | .pageBegin _ => some 0
  | .lines _ _ => some 0
  | .pageEnd => none
  | .eject => some 133

/-- A search takes its scan and nine awaits for each device the scan shows. -/
theorem discover_ends (env : Env) (w : World) {script : List Tick}
    (enough : 9 * nearby script + 1 ≤ script.length) :
    EndsWithin (9 * nearby script + 1) script (Bridge.discover env w script) := by
  rw [Nat.add_comm]
  apply EndsWithin.bind
  · exact (Bridge.within_scan env).ends w (Nat.le_of_add_left_le enough)
  · intro devices middle left returned
    cases script with
    | nil => exact absurd enough (Nat.not_succ_le_zero _)
    | cons answer later =>
        obtain ⟨rfl, few⟩ := (scan_takes env w answer later).1 devices middle left returned
        have bound : 9 * devices.length ≤ 9 * nearby (answer :: left) := Nat.mul_le_mul_left 9 few
        apply ((within_identifyAll env devices).ends middle _).mono bound
        exact bound.trans (Nat.le_of_succ_le_succ enough)

/-- The handler of a command that waits for no sheet. -/
theorem handler_ends (env : Env) (w : World) {command : Command} {script : List Tick} {count : Nat}
    (bounded : awaits (nearby script) command = some count) (enough : count ≤ script.length) :
    EndsWithin count script (handler env command w script) := by
  cases command with
  | discover timeout =>
      obtain rfl := Option.some.inj bounded
      cases timeout with
      | error exc => exact (Within.raise exc).ends w (Nat.zero_le _) |>.mono (Nat.zero_le _)
      | ok seconds =>
          exact (discover_ends env w enough).bind fun found middle left _ =>
            (Within.pure _).ends middle (Nat.zero_le _)
  | «open» address model =>
      obtain rfl := Option.some.inj bounded
      exact (within_cmdOpen env address model).ends w enough
  | close =>
      obtain rfl := Option.some.inj bounded
      exact (@Within.bind _ _ _ _ _ _ 0 0 _ _ (Bridge.within_startHold env) fun _ =>
        Within.bind (Within.emit _) fun _ => Within.pure _).ends w enough
  | disconnect =>
      obtain rfl := Option.some.inj bounded
      exact (Within.free_bind (Within.modify _) fun _ =>
        @Within.bind _ _ _ _ _ _ 1 0 _ _ Bridge.within_disconnect fun _ =>
          Within.pure _).ends w enough
  | status address =>
      obtain rfl := Option.some.inj bounded
      have within : Within 14 (cmdStatus env address) := by
        apply Within.free_bind Within.read
        intro w
        exact Within.ite (within_liveStatus env) ((Within.pure _).mono (Nat.zero_le 14))
      exact within.ends w enough
  | info =>
      obtain rfl := Option.some.inj bounded
      exact (within_cmdInfo env).ends w enough
  | autoOff minutes =>
      obtain rfl := Option.some.inj bounded
      exact (within_cmdAutoOff env minutes).ends w enough
  | identify =>
      obtain rfl := Option.some.inj bounded
      exact (within_cmdIdentify env).ends w enough
  | testPage =>
      obtain rfl := Option.some.inj bounded
      exact (within_cmdTestPage env).ends w enough
  | waitReady settle => cases bounded
  | pageBegin page =>
      obtain rfl := Option.some.inj bounded
      change EndsWithin 0 script (cmdPageBegin page w script)
      rw [cmdPageBegin_eq]
      cases page with
      | error exc => exact Nat.le_refl _
      | ok page => exact Nat.le_refl _
  | lines rows payload =>
      obtain rfl := Option.some.inj bounded
      change EndsWithin 0 script (cmdLines rows payload w script)
      rw [cmdLines_eq]
      cases takeLines w.session.page rows payload with
      | error exc => exact Nat.le_refl _
      | ok page => exact Nat.le_refl _
  | pageEnd => cases bounded
  | eject =>
      obtain rfl := Option.some.inj bounded
      have within : Within 133 cmdEject := by
        apply Within.free_bind (Within.modify _)
        intro _
        apply Within.free_bind within_requirePrinter
        intro p
        exact @Within.bind _ _ _ _ _ _ 133 0 _ _ (within_ejectPaper p) fun _ => Within.pure _
      exact within.ends w enough

/-- A reply is written in one await. -/
theorem answer_returns (command : Command) (reply : Reply) (w : World) {script : List Tick}
    (more : 0 < script.length) : (answer command reply w script).hasReturned = true := by
  cases script with
  | nil => exact absurd more (Nat.lt_irrefl 0)
  | cons tick script => rfl

/-- Every command that waits for no sheet is answered within its awaits, whatever the state of the
bridge and whatever happens while it runs. -/
theorem command_answered (env : Env) (w : World) (command : Command) (script : List Tick)
    (count : Nat) (bounded : awaits (nearby script) command = some count)
    (enough : count < script.length) :
    (runCommand env command w script).hasReturned = true := by
  have ends := handler_ends env (w.accept command) bounded enough.le
  have replied : ∃ trace reply middle left,
      handle (handler env command >>= fun result => pure (Reply.ok result))
          (fun exc => pure (Reply.error (errorText exc))) (w.accept command) script =
        ⟨trace, .returned reply middle left⟩ ∧ 0 < left.length := by
    unfold EndsWithin at ends
    change ∃ trace reply middle left, handle (Coroutine.bind (handler env command) _) _ _ _ = _ ∧ _
    unfold Coroutine.handle Coroutine.bind
    generalize handler env command (w.accept command) script = outcome at ends ⊢
    obtain ⟨trace, ⟨result, middle, left⟩ | ⟨exc, middle, left⟩ | ⟨middle⟩⟩ := outcome
    · exact ⟨_, _, _, left, rfl, by dsimp only at ends; omega⟩
    · exact ⟨_, _, _, left, rfl, by dsimp only at ends; omega⟩
    · exact ends.elim
  obtain ⟨trace, reply, middle, left, handled, more⟩ := replied
  have answered := answer_returns command reply middle more
  have run : runCommand env command w script =
      ((handle (handler env command >>= fun result => pure (Reply.ok result))
          (fun exc => pure (Reply.error (errorText exc))) >>= answer command)
        (w.accept command) script).after [commandStart w command] := rfl
  rw [run, bind_eq_of_returned handled]
  unfold Run.hasReturned at answered ⊢
  rw [Run.after_ending, Run.after_ending]
  exact answered

/-- A bridge without a printer. -/
def unlinkedBridge : World where
  printers := fun _ => Printer.new strip none

/-- A scan finds a printer, which never answers. -/
def silentPrinter : List Tick :=
  { devices := [⟨"S", some "S"⟩] } :: List.replicate 19 {}

/-- The open looks for a printer, connects to it and asks it for its serial. -/
def openedSilently : Run PyExc World Tick TraceEvent Reply :=
  runCommand twoStripsEnv (.open none none) unlinkedBridge silentPrinter

theorem command_answered_open :
    unlinkedBridge.bridge.printer = none ∧ openedSilently.ending.state.isConnected 0 = true ∧
      openedSilently.hasReturned = true := by
  refine ⟨rfl, by decide +kernel, ?_⟩
  exact command_answered twoStripsEnv unlinkedBridge (.open none none) silentPrinter 19 rfl
    (by decide)

end Session

end Phomemo
