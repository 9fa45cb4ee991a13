import Phomemo.Conduct
import Phomemo.Session
import Phomemo.Wire.Runs

/-!
# Nothing is left behind

However the commands of the bridge end, the waiters and callbacks they registered on a printer are
taken down again; and at no time do two waiters of one printer wait for the same notification.
-/

namespace Phomemo

open Async Coroutine Effect

variable {conduct : Conduct}

/-! ## The bridge service -/

namespace Bridge

theorem has_setBridge (change : World → Bridge → Bridge) :
    conduct.Has (Coroutine.modify fun w => w.setBridge (change w)) :=
  Conduct.modify fun _ _ => rfl

theorem has_remember (address : Option String) (values : List (String × Json)) :
    conduct.Has (remember address values) := by
  cases address with
  | none => exact Has.pure ()
  | some address => exact has_setBridge _

theorem has_factory (profile : PrinterProfile) (address : Option PrinterAddress) :
    conduct.Has (factory profile address) := by
  have creates : conduct.Has (Coroutine.modify fun w =>
      { w.setPrinter w.nextPrinter fun _ => Printer.new profile address with
        nextPrinter := w.nextPrinter + 1 }) := by
    apply Effect.Has.modify
    intro w
    refine ⟨List.forall_mem_nil _, fun q => ?_⟩
    by_cases new : q = w.nextPrinter
    · subst new
      right
      change (w.setPrinter w.nextPrinter fun _ =>
        Printer.new profile address).desk w.nextPrinter = _
      unfold World.desk
      rw [World.setPrinter_printers, if_pos rfl]
      rfl
    · left
      change (w.setPrinter w.nextPrinter fun _ => Printer.new profile address).desk q = _
      apply World.desk_congr
      rw [World.setPrinter_printers, if_neg new]
  exact Has.bind Has.read fun _ => Has.bind creates fun _ => Has.pure _

theorem has_factoryForName (env : Env) (device : Device) :
    conduct.Has (factoryForName env device) := by
  unfold factoryForName
  cases env.registry.profileForName device.name none with
  | none => exact Has.raise _
  | some profile => exact has_factory profile _

theorem has_scan (env : Env) : conduct.Has (scan env) :=
  Has.bind (Printer.has_scanDevices _) fun _ => Has.pure _

theorem has_querySerial (p : PrinterId) : conduct.Has (querySerial p) :=
  Has.handle (Printer.has_querySerial p) fun _ => Has.pure none

theorem has_readSerial (env : Env) (device : Device) : conduct.Has (readSerial env device) := by
  apply Has.bind Has.read
  intro w
  dsimp only
  split
  · exact has_querySerial _
  · apply Has.bind (has_factoryForName env device)
    intro probe
    apply Has.bind (Conduct.excepting (Printer.has_connect env probe))
    rintro (_ | _)
    · exact Has.pure none
    · exact Has.andFinally (has_querySerial probe)
        (Has.handle (BleTransport.has_disconnect probe) fun _ => Has.pure ())

theorem has_identifyAll (env : Env) (devices : List Device) :
    conduct.Has (identifyAll env devices) := by
  induction devices with
  | nil => exact Has.pure []
  | cons device devices ih =>
      have others : ∀ found : Found, conduct.Has (do
          let others ← identifyAll env devices
          return found :: others) := fun found => Has.bind ih fun _ => Has.pure _
      unfold identifyAll
      split
      · exact Has.bind (Has.pure _) fun _ => others _
      · apply Has.bind (has_readSerial env device)
        intro serial
        cases env.registry.profileForName device.name serial with
        | none => exact Has.raise _
        | some profile => exact Has.bind (has_remember _ _) fun _ => others _

theorem has_cancelHold : conduct.Has cancelHold := Conduct.modify fun _ _ => rfl

theorem has_disconnect : conduct.Has disconnect := by
  apply Has.bind has_cancelHold
  intro _
  apply Has.bind Has.read
  intro w
  cases w.bridge.printer with
  | none => exact Has.pure ()
  | some p => exact Has.ite (BleTransport.has_disconnect p) (Has.pure ())

theorem has_startHold (env : Env) : conduct.Has (startHold env) := by
  apply Has.bind has_cancelHold
  intro _
  exact Has.bind Has.read fun _ => Has.ite (Conduct.modify fun _ _ => rfl) (Has.pure ())

theorem has_newPrinter (env : Env) (address model : Option String) :
    conduct.Has (newPrinter env address model) := by
  have looked : ∀ found, conduct.Has (Coroutine.emit (.lookedFor address found)) :=
    fun _ => Conduct.emit (by rintro ⟨⟩)
  cases model with
  | some name =>
      unfold newPrinter
      dsimp only
      cases env.registry.getProfile name with
      | none => exact Has.raise _
      | some profile => exact has_factory profile _
  | none =>
      apply Has.bind
      · exact Has.handle (has_scan env) fun _ => Has.bind (looked false) fun _ => Has.raise _
      · intro found
        cases pickDevice env address found with
        | error exc => exact Has.bind (looked false) fun _ => Has.raise _
        | ok device => exact Has.bind (looked true) fun _ => has_factoryForName env device

/-! ## Connecting -/

theorem has_applySerial (env : Env) (p : PrinterId) (name : Option String) (serial : String) :
    conduct.Has (applySerial env p name serial) := by
  apply Has.bind Has.read
  intro w
  apply Has.bind (has_remember _ _)
  intro _
  cases env.registry.profileForName name (some serial) with
  | none => exact Has.pure ()
  | some resolved =>
      apply Has.bind Has.read
      intro w
      apply Has.ite (Has.pure ())
      apply Has.ite (Printer.has_useProfile p resolved)
      apply Has.bind (BleTransport.has_disconnect p)
      intro _
      apply Has.bind Has.read
      intro w
      apply Has.bind (has_factory _ _)
      intro q
      apply Has.bind (has_setBridge _)
      intro _
      exact Has.bind (Conduct.emit (by rintro ⟨⟩)) fun _ => Printer.has_connect env q

theorem has_refineModel (env : Env) (p : PrinterId) : conduct.Has (refineModel env p) := by
  apply Has.bind Has.read
  intro w
  apply Has.ite _ (Has.pure ())
  apply Has.bind (has_querySerial p)
  rintro (_ | serial)
  · exact Has.pure ()
  · exact has_applySerial env p _ serial

theorem has_applyAutoOff (env : Env) (p : PrinterId) : conduct.Has (applyAutoOff env p) := by
  unfold applyAutoOff
  cases env.autoOffMinutes with
  | none => exact Has.pure ()
  | some wanted =>
      refine Has.handle ?_ fun _ => Has.pure ()
      apply Has.bind (Printer.has_queryAutoOff p)
      intro current
      have notes : conduct.Has (do
          let w ← read
          remember (w.printers p).addressText [("auto_off_minutes", .int wanted)]) :=
        Has.bind Has.read fun _ => has_remember _ _
      exact Has.ite (Has.bind (Printer.has_setAutoOffTimer p wanted) fun _ => notes) notes

theorem has_connectHeld (env : Env) : conduct.Has (connectHeld env) := by
  apply Has.bind Has.read
  intro w
  cases w.bridge.printer with
  | none => exact Has.raise _
  | some p =>
      apply Has.bind (Printer.has_connect env p)
      intro _
      apply Has.bind (has_refineModel env p)
      exact fun _ => Has.bind Has.read fun _ => has_applyAutoOff env _

theorem has_release (address model : Option String) : conduct.Has (release address model) := by
  apply Has.bind Has.read
  intro w
  cases w.bridge.printer with
  | none => exact Has.pure ()
  | some p =>
      apply Has.ite _ (Has.pure ())
      exact Has.bind has_disconnect fun _ => Conduct.modify fun _ _ => rfl

theorem has_acquire (env : Env) (address model : Option String) :
    conduct.Has (acquire env address model) := by
  apply Has.bind Has.read
  intro w
  apply Has.ite _ (Has.pure ())
  exact Has.bind (has_newPrinter env address model) fun _ => Conduct.modify fun _ _ => rfl

theorem has_establish (env : Env) (address model : Option String) :
    conduct.Has (establish env address model) := by
  have links : conduct.Has (do
      release address model
      let w ← read
      if w.bridgeConnected then
        pure ()
      else
        acquire env address model
        connectHeld env) := by
    apply Has.bind (has_release address model)
    intro _
    apply Has.bind Has.read
    intro w
    apply Has.ite (Has.pure ())
    exact Has.bind (has_acquire env address model) fun _ => has_connectHeld env
  apply Has.bind has_cancelHold
  intro _
  cases model with
  | none => exact links
  | some name => exact Has.ite (Has.bind (Has.raise _) fun _ => links) links

theorem has_connect (env : Env) (address model : Option String) :
    conduct.Has (connect env address model) := by
  apply Has.bind Has.read
  intro w
  apply Has.bind (Conduct.emit (by rintro ⟨⟩))
  intro _
  apply Has.bind
  · exact Has.handle (has_establish env address model) fun _ =>
      Has.bind (Conduct.emit (by rintro ⟨⟩)) fun _ => Has.raise _
  · exact fun _ => Has.bind Has.read fun _ => Conduct.emit (by rintro ⟨⟩)

end Bridge

/-! ## Waits -/

namespace Session

/-- What a session does. -/
abbrev Serves {α : Type} (program : Py α) : Prop := Conduct.serving.Has program

theorem serves_emit (event : TraceEvent) : Serves (Coroutine.emit event) :=
  Conduct.record trivial

theorem serves_setSession (change : World → Session → Session) :
    Serves (Coroutine.modify fun w => w.setSession (change w)) :=
  Conduct.modify fun _ _ => rfl

theorem serves_sendEvent (event : PushedEvent) : Serves (sendEvent event) :=
  Has.bind (serves_emit _) fun _ => Conduct.pause

theorem serves_report (state : Option WaitingReason) (reason : WaitingReason) :
    Serves (report state reason) :=
  Has.ite (Has.pure state) (Has.bind (serves_sendEvent _) fun _ => Has.pure _)

theorem serves_connectOnce (env : Env) (state : Option WaitingReason) :
    Serves (connectOnce env state) := by
  have connects : ∀ state, Serves (handle
      (do
        Bridge.connect env none none
        return state)
      fun exc =>
        if exc.IsConnectionError then do
          let state ← report state (unreachableReason exc)
          pause
          return state
        else
          raise exc) := by
    intro state
    apply Has.handle (Has.bind (Bridge.has_connect env none none) fun _ => Has.pure state)
    intro exc
    apply Has.ite _ (Has.raise _)
    apply Has.bind (serves_report state _)
    exact fun _ => Has.bind Conduct.pause fun _ => Has.pure _
  apply Has.ite
  · exact Has.bind (serves_report state .connecting) connects
  · exact Has.bind (Has.pure state) connects

theorem serves_requirePrinter : Serves requirePrinter := by
  apply Has.bind Has.read
  intro w
  cases w.bridge.printer with
  | none => exact Has.raise _
  | some p => exact Has.ite (Has.pure p) (Has.raise _)

theorem serves_orNotReachable {body : Py Unit} (has : Serves body) :
    Serves (orNotReachable body) :=
  Has.handle has fun _ => Has.ite (Has.raise _) (Has.raise _)

theorem serves_answeringPrinter (env : Env) : Serves (answeringPrinter env) := by
  apply Has.bind serves_requirePrinter
  intro p
  apply Has.bind (Printer.has_queryPaper p)
  intro paper
  apply Has.ite _ (Has.pure p)
  exact Has.bind (serves_orNotReachable (Printer.has_reconnect env p)) fun _ => Has.pure p

theorem serves_readyRound (env : Env) (p : PrinterId) (settle : ℚ) (emptyReason : WaitingReason)
    (timeouts : Nat) (state : Option WaitingReason) :
    Serves (readyRound env p settle emptyReason timeouts state) := by
  have again : ∀ {program : Py Unit} (seed : Nat × Option WaitingReason), Serves program →
      Serves (program >>= fun _ =>
        (pure (.inl seed) : Py ((Nat × Option WaitingReason) ⊕ Unit))) :=
    fun seed has => Has.bind has fun _ => Has.pure _
  have reconnects : Serves (reconnectMute env p) :=
    Has.handle (Printer.has_reconnect env p) fun _ => Has.ite Conduct.pause (Has.raise _)
  have unready : ∀ readiness : Printer.Readiness, Serves
      (if readiness.couldNotQuery then
        if muteThreshold ≤ timeouts + 1 then do
          reconnectMute env p
          return .inl (0, state)
        else do
          pause
          return .inl (timeouts + 1, state)
      else do
        let state ← report state (waitingReason readiness emptyReason)
        pause
        return .inl (0, state) : Py ((Nat × Option WaitingReason) ⊕ Unit)) := by
    intro readiness
    apply Has.ite
    · exact Has.ite (again _ reconnects) (again _ Conduct.pause)
    · exact Has.bind (serves_report state _) fun _ => again _ Conduct.pause
  apply Has.bind (Conduct.excepting (Printer.has_checkReady p))
  rintro (_ | _ | _ | _ | _ | _)
  · exact Has.pure _
  · apply Has.ite (Has.pure _)
    apply Has.bind (Conduct.excepting (Printer.has_waitForReady env p 10000 settle))
    rintro (_ | _)
    · exact Has.pure _
    · exact Has.pure _
  · exact unready .lidUnknown
  · exact unready .lidOpen
  · exact unready .paperUnknown
  · exact unready .noPaper

theorem serves_waitReady (env : Env) (settle : ℚ) (emptyReason : WaitingReason) :
    Serves (waitReady env settle emptyReason) := by
  apply Has.iterate
  rintro ⟨timeouts, state⟩
  have connects : Serves (connectOnce env state >>= fun state =>
      (pure (.inl (timeouts, state)) : Py ((Nat × Option WaitingReason) ⊕ Unit))) :=
    Has.bind (serves_connectOnce env state) fun _ => Has.pure _
  apply Has.bind Has.read
  intro w
  apply Has.ite (Has.raise _)
  cases w.bridge.printer with
  | none => exact connects
  | some p => exact Has.ite (serves_readyRound env p settle emptyReason timeouts state) connects

/-! ## The page pipeline -/

theorem serves_ejectPaper (p : PrinterId) : Serves (Printer.ejectPaper p) :=
  Printer.has_ejectPaper (fun _ => id) p 64 120 2 160

theorem serves_recoverLink (env : Env) : Serves (recoverLink env) := by
  apply Has.bind Has.read
  intro w
  cases w.bridge.printer with
  | none => exact Has.pure ()
  | some p =>
      exact Has.handle (Printer.has_reconnect env p) fun _ =>
        Has.ite (serves_emit _) (Has.raise _)

theorem serves_awaitLink (env : Env) : Serves (awaitLink env) := by
  apply Has.iterate
  intro state
  apply Has.bind Has.read
  intro w
  apply Has.ite (Has.pure _)
  apply Has.ite (Has.raise _)
  exact Has.bind (serves_connectOnce env state) fun _ => Has.pure _

theorem serves_awaitLidClosed (env : Env) (p : PrinterId) (state : Option WaitingReason) :
    Serves (awaitLidClosed env p state) := by
  apply Has.iterate
  rintro ⟨timeouts, state⟩
  apply Has.bind Has.read
  intro w
  apply Has.ite (Has.raise _)
  apply Has.bind (Conduct.excepting (Printer.has_queryLid p))
  have unanswered : Serves
      (if muteThreshold ≤ timeouts + 1 then do
        recoverLink env
        pause
        return .inl (0, state)
      else do
        pause
        return .inl (timeouts + 1, state) : Py ((Nat × Option WaitingReason) ⊕ Unit)) := by
    apply Has.ite
    · apply Has.bind (serves_recoverLink env)
      exact fun _ => Has.bind Conduct.pause fun _ => Has.pure _
    · exact Has.bind Conduct.pause fun _ => Has.pure _
  rintro (_ | _ | _ | _)
  · exact unanswered
  · exact unanswered
  · exact Has.pure _
  · apply Has.bind (serves_report state .lidOpen)
    exact fun _ => Has.bind Conduct.pause fun _ => Has.pure _

theorem serves_dropOldSheet (p : PrinterId) : Serves (dropOldSheet p) := by
  apply Has.bind (Conduct.excepting (Printer.has_queryPaper p))
  intro paper
  apply Has.bind (serves_emit _)
  intro _
  apply Has.ite _ (Has.pure ())
  apply Has.bind
  · exact Has.handle (serves_ejectPaper p) fun _ =>
      Has.bind (serves_emit _) fun _ => Has.raise _
  · exact fun _ => serves_emit _

theorem serves_waitForFreshSheet (env : Env) (emptyReason : WaitingReason) :
    Serves (waitForFreshSheet env emptyReason) := by
  apply Has.bind (serves_awaitLink env)
  intro state
  apply Has.bind serves_requirePrinter
  intro p
  apply Has.bind (serves_awaitLidClosed env p state)
  intro _
  exact Has.bind (serves_dropOldSheet p) fun _ => serves_waitReady env _ emptyReason

theorem serves_printPage (p : PrinterId) (bitmap : Bytes) (height : Nat) (density : Density) :
    Serves (printPage p bitmap height density) := by
  have reports : ∀ _ _ : Nat, Conduct.serving.querying.Has (onProgress p height) := by
    intro _ _
    apply Has.bind Has.read
    intro w
    apply Has.ite _ (Has.pure ())
    exact Has.bind (Conduct.modify fun _ _ => rfl) fun _ => Conduct.record trivial
  apply Has.bind (serves_setSession _)
  intro _
  apply Has.bind
    (Printer.has_printBitmap (fun _ => id) p bitmap height _ _ reports .normal 20 (1 / 4))
  intro _
  exact Has.bind Has.read fun _ => Has.ite (serves_sendEvent _) (Has.pure ())

theorem serves_recover (env : Env) (p : PrinterId) (exc : PyExc) : Serves (recover env p exc) := by
  have again : ∀ emptyReason, Serves (waitForFreshSheet env emptyReason) :=
    serves_waitForFreshSheet env
  cases exc with
  | sheetRanOut text =>
      apply Has.bind (serves_emit _)
      intro _
      apply Has.bind (serves_recoverLink env)
      intro _
      apply Has.bind _ fun _ => again .shortSheet
      exact Has.handle (Has.bind (serves_ejectPaper p) fun _ => Has.pure ()) fun _ =>
        Has.ite (Has.pure ()) (Has.raise _)
  | printAborted reason =>
      cases reason with
      | cancelled =>
          apply Has.bind Conduct.pause
          exact fun _ => Has.bind (serves_ejectPaper p) fun _ => Has.raise _
      | lidOpened => exact Has.bind (serves_emit _) fun _ => again .noSheet
  | connectionError text => exact Has.bind (serves_emit _) fun _ => again .noSheet
  | timeoutError text => exact Has.raise _
  | osError text => exact Has.raise _
  | _ => exact Has.raise _

theorem serves_printAttempts (env : Env) (p : PrinterId) (bitmap : Bytes) (height : Nat)
    (density : Density) : Serves (printAttempts env p bitmap height density) := by
  apply Has.forever
  apply Has.handle (Has.bind (serves_printPage p bitmap height density) fun _ => Has.pure _)
  exact fun exc => Has.bind (serves_recover env p exc) fun _ => Has.pure none

theorem serves_printComplete (env : Env) (p : PrinterId) (page : PageBuffer) :
    Serves (printComplete env p page) := by
  have prepares : Serves (preparedPage env p page) := by
    apply Has.bind Has.read
    intro w
    apply Has.bind Conduct.pause
    intro _
    apply Has.bind (Conduct.ofExcept _)
    intro prepared
    apply Has.bind Conduct.pause
    exact fun _ => Has.bind (Conduct.ofExcept _) fun _ => Has.pure _
  apply Has.bind prepares
  rintro ⟨bitmap, height⟩
  apply Has.bind (serves_printAttempts env p bitmap height page.density)
  intro _
  apply Has.bind
  · exact Has.handle (Has.bind (serves_ejectPaper p) fun _ => Has.pure ()) fun _ =>
      Has.bind (serves_emit _) fun _ => Has.raise _
  · exact fun _ => Has.pure _

/-! ## Commands -/

theorem serves_cmdDiscover (env : Env) (timeout : Except PyExc ℚ) :
    Serves (cmdDiscover env timeout) := by
  apply Has.bind (Conduct.ofExcept timeout)
  intro _
  apply Has.bind (Has.bind (Bridge.has_scan env) (Bridge.has_identifyAll env))
  exact fun _ => Has.pure _

theorem serves_cmdOpen (env : Env) (address model : Option String) :
    Serves (cmdOpen env address model) := by
  apply Has.bind (serves_setSession _)
  intro _
  apply Has.bind
  · exact Has.handle (Has.bind (Bridge.has_connect env address model) fun _ => Has.pure none)
      fun _ => Has.ite (Has.pure _) (Has.raise _)
  · rintro (_ | exc)
    · apply Has.bind Has.read
      intro w
      cases w.bridge.printer with
      | none => exact Has.raise _
      | some p => exact Has.bind (serves_emit _) fun _ => Has.pure _
    · exact Has.bind (serves_emit _) fun _ => Has.pure _

theorem serves_cmdInfo (env : Env) : Serves (cmdInfo env) := by
  apply Has.bind (serves_answeringPrinter env)
  intro p
  apply Has.bind (Printer.has_queryDeviceInfo p)
  intro info
  apply Has.bind Has.read
  exact fun w => Has.bind (Bridge.has_remember _ _) fun _ => Has.pure _

theorem serves_cmdAutoOff (env : Env) (minutes : Json) : Serves (cmdAutoOff env minutes) := by
  have reads : ∀ p, Serves (do
      let current ← Printer.queryAutoOff p
      let w ← read
      Bridge.remember (w.printers p).addressText [("auto_off_minutes", .ofInt current)]
      return [("auto_off_minutes", .ofInt current)] : Py Result) := by
    intro p
    apply Has.bind (Printer.has_queryAutoOff p)
    intro current
    apply Has.bind Has.read
    exact fun w => Has.bind (Bridge.has_remember _ _) fun _ => Has.pure _
  apply Has.bind (serves_answeringPrinter env)
  intro p
  cases minutes with
  | null => exact reads p
  | int minutes =>
      have sets : Serves (Printer.setAutoOffTimer p minutes) :=
        Printer.has_setAutoOffTimer p minutes
      apply Has.bind _ fun _ => reads p
      apply Has.handle sets
      intro exc
      cases exc <;> exact Has.raise _
  | _ => exact Has.bind (Has.raise _) fun _ => reads p

theorem serves_cmdStatus (env : Env) (address : Option String) :
    Serves (cmdStatus env address) := by
  have live : Serves (liveStatus env) := by
    apply Has.bind (serves_answeringPrinter env)
    intro p
    apply Has.bind (Printer.has_queryLid p)
    intro lid
    apply Has.bind (Printer.has_queryPaper p)
    intro paper
    apply Has.bind (Printer.has_queryBattery p)
    intro battery
    apply Has.bind Has.read
    exact fun w => Has.bind (Bridge.has_remember _ _) fun _ => Has.pure _
  exact Has.bind Has.read fun w => Has.ite live (Has.pure _)

theorem serves_connectFor (env : Env) : Serves (connectFor env) := by
  apply Has.bind Has.read
  intro w
  exact Has.ite (serves_orNotReachable (Bridge.has_connect env none none)) (Has.pure ())

theorem serves_cmdIdentify (env : Env) : Serves (cmdIdentify env) := by
  have pulses : ∀ p, Serves (do
      times 3 (do
        Printer.feed p 40
        let _ ← Printer.queryPaper p
        pause)
      return [] : Py Result) := by
    intro p
    apply Has.bind _ fun _ => Has.pure _
    apply Has.times
    apply Has.bind (Printer.has_feed p 40)
    exact fun _ => Has.bind (Printer.has_queryPaper p) fun _ => Conduct.pause
  apply Has.bind (serves_setSession _)
  intro _
  apply Has.bind (serves_connectFor env)
  intro _
  apply Has.bind (serves_answeringPrinter env)
  intro p
  apply Has.bind (Printer.has_queryPaper p)
  intro paper
  apply Has.ite _ (pulses p)
  exact Has.bind (serves_ejectPaper p) fun _ => Has.bind Conduct.pause fun _ => pulses p

theorem serves_cmdTestPage (env : Env) : Serves (cmdTestPage env) := by
  have threads : Serves runThread := by
    apply Has.bind Conduct.tick
    intro answer
    cases answer.threadError with
    | none => exact Has.pure ()
    | some exc => exact Has.raise exc
  apply Has.bind (serves_setSession _)
  intro _
  apply Has.bind (serves_connectFor env)
  intro _
  apply Has.bind (serves_answeringPrinter env)
  intro p
  apply Has.bind (Printer.has_queryDeviceInfo p)
  exact fun _ => Has.bind threads fun _ => Has.bind threads fun _ => Has.pure _

theorem serves_cmdLines (count : Except PyExc Int) (payload : Bytes) :
    Serves (cmdLines count payload) := by
  apply Has.bind Has.read
  intro w
  cases w.session.page with
  | none => exact Has.raise _
  | some page =>
      apply Has.bind (Conduct.ofExcept count)
      intro count
      dsimp only
      split_ifs
      · exact Has.bind (serves_setSession _) fun _ => Has.pure _
      · exact Has.raise _
      · exact Has.raise _

theorem serves_cmdPageEnd (env : Env) : Serves (cmdPageEnd env) := by
  apply Has.bind Has.read
  intro w
  cases w.session.page with
  | none => exact Has.raise _
  | some page =>
      apply Has.ite _ (Has.raise _)
      apply Has.bind serves_requirePrinter
      intro p
      apply Has.bind (serves_setSession _)
      exact fun _ => Has.andFinally (serves_printComplete env p page) (serves_setSession _)

theorem serves_handler (env : Env) (command : Command) : Serves (handler env command) := by
  cases command with
  | discover timeout => exact serves_cmdDiscover env timeout
  | «open» address model => exact serves_cmdOpen env address model
  | close =>
      apply Has.bind (Bridge.has_startHold env)
      exact fun _ => Has.bind (serves_emit _) fun _ => Has.pure _
  | disconnect =>
      apply Has.bind (serves_setSession _)
      exact fun _ => Has.bind Bridge.has_disconnect fun _ => Has.pure _
  | status address => exact serves_cmdStatus env address
  | info => exact serves_cmdInfo env
  | autoOff minutes => exact serves_cmdAutoOff env minutes
  | identify => exact serves_cmdIdentify env
  | testPage => exact serves_cmdTestPage env
  | waitReady settle =>
      apply Has.bind (Conduct.ofExcept _)
      exact fun _ => Has.bind (serves_waitReady env _ .noSheet) fun _ => Has.pure _
  | pageBegin page =>
      apply Has.bind (Conduct.ofExcept page)
      exact fun _ => Has.bind (serves_setSession _) fun _ => Has.pure _
  | lines count payload => exact serves_cmdLines count payload
  | pageEnd => exact serves_cmdPageEnd env
  | eject =>
      apply Has.bind (serves_setSession _)
      intro _
      apply Has.bind serves_requirePrinter
      exact fun p => Has.bind (serves_ejectPaper p) fun _ => Has.pure _

/-! ## Runs -/

theorem serves_runCommand (env : Env) (command : Command) : Serves (runCommand env command) := by
  apply Has.bind Has.read
  intro w
  apply Has.bind (serves_emit _)
  intro _
  apply Has.bind (serves_setSession _)
  intro _
  apply Has.bind
  · exact Has.handle (Has.bind (serves_handler env command) fun _ => Has.pure _) fun _ =>
      Has.pure _
  · intro reply
    apply Has.bind (serves_emit _)
    intro _
    apply Has.bind Conduct.pause
    exact fun _ => Has.bind (serves_setSession _) fun _ => Has.pure _

theorem serves_move (env : Env) (move : Move) : Serves (Session.move env move) := by
  cases move with
  | begins =>
      apply Conduct.modify
      intro w p
      split <;> rfl
  | command command =>
      apply Has.bind Has.read
      intro w
      apply Has.ite _ (Has.pure ())
      exact Has.bind (serves_runCommand env command) fun _ => Has.pure ()
  | ends =>
      apply Has.bind Has.read
      intro w
      apply Has.ite _ (Has.pure ())
      apply Has.bind (Bridge.has_setBridge _)
      intro _
      apply Has.bind (serves_emit _)
      exact fun _ => Has.ite (Bridge.has_startHold env) (Has.pure ())
  | idle => exact Conduct.pause

end Session

theorem World.desk_clear {w : World} {p : PrinterId} :
    w.desk p = {} ↔ (w.printers p).listeners = {} := by
  constructor
  · intro clear
    obtain ⟨unasked, unwatched⟩ := Desk.mk.inj clear
    have waiters := List.map_eq_nil_iff.mp unasked
    have callbacks := List.length_eq_zero_iff.mp unwatched
    exact congrArg₂ Listeners.mk callbacks waiters
  · intro clear
    unfold World.desk
    rw [clear]
    rfl

/-- On a bridge that has just been started, whatever its clients, its printers and the environment
do: at most two waiters wait on a printer, for notifications that cannot be mistaken for each other,
next to one callback; and nothing listens once the commands have ended, whichever way they ended. -/
theorem runMoves_clear (env : Env) (w : World) (clear : ∀ p, (w.printers p).listeners = {})
    (moves : List Session.Move) (script : List Tick) (p : PrinterId) :
    ((Session.runMoves env moves w script).ending.state.desk p).Busy ∧
      ((Session.runMoves env moves w script).hasReturned = true →
        ((Session.runMoves env moves w script).ending.state.printers p).listeners = {}) := by
  have done := Has.forEach (Session.serves_move env) moves w script
  have start : w.desk p = {} := World.desk_clear.mpr (clear p)
  have kept : ∀ {after}, (w.desk p).Keeps after → after = {} := by
    intro after keeps
    rcases keeps with rfl | rfl
    · exact start
    · rfl
  unfold Session.runMoves
  generalize forEach moves (Session.move env) w script = run at done ⊢
  obtain ⟨trace, ⟨value, final, left⟩ | ⟨error, final, left⟩ | ⟨final⟩⟩ := run
  · have ended : final.desk p = {} := kept (done.2 p)
    exact ⟨ended.symm ▸ Desk.light_empty.busy, fun _ => World.desk_clear.mp ended⟩
  · have ended : final.desk p = {} := kept (done.2 p)
    exact ⟨ended.symm ▸ Desk.light_empty.busy, fun _ => World.desk_clear.mp ended⟩
  · obtain ⟨base, extra, keeps, busy, adds⟩ := done.2 p
    obtain rfl := kept keeps
    have waits : final.desk p = extra := adds.trans (Desk.empty_add extra)
    exact ⟨waits.symm ▸ busy, fun returned => absurd returned Bool.false_ne_true⟩

/-- A page is printed and ejected, and nothing listens on the printer any more. -/
theorem runMoves_clear_strip : (openedToPrint.ending.state.printers 0).listeners = {} := by
  have returned : openedToPrint.hasReturned = true := by decide +kernel
  unfold openedToPrint at returned ⊢
  exact (runMoves_clear stripEnv freshWorld (fun _ => rfl) _ _ 0).2 returned

end Phomemo
