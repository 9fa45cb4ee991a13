import Phomemo.Bridge

/-!
# Client sessions

The command handlers of `Session`, the waits of the page pipeline, and the runs the bridge goes
through: sessions one after the other, each a sequence of commands.
-/

namespace Phomemo

open Async Coroutine

/-- A command with its arguments.  Fields that are converted before use come with the outcome of
the conversion. -/
inductive Command where
  | discover (timeout : Except PyExc ℚ)
  | open (address model : Option String)
  | close
  | disconnect
  | status (address : Option String)
  | info
  | autoOff (minutes : Json)
  | identify
  | testPage
  | waitReady (settle : Option (Except PyExc ℚ))
  | pageBegin (page : Except PyExc PageBuffer)
  | lines (count : Except PyExc Int) (payload : Bytes)
  | pageEnd
  | eject

/-- The name a command is dispatched by. -/
def Command.name : Command → CommandName
  | discover _ => .discover
  | .open _ _ => .open
  | close => .close
  | disconnect => .disconnect
  | status _ => .status
  | info => .info
  | autoOff _ => .autoOff
  | identify => .identify
  | testPage => .testPage
  | waitReady _ => .waitReady
  | pageBegin _ => .pageBegin
  | lines _ _ => .lines
  | pageEnd => .pageEnd
  | eject => .eject

/-- The fields of a result. -/
abbrev Result : Type := List (String × Json)

/-- The JSON name of a lid state. -/
def LidState.json : LidState → Json
  | .closed => .str "closed"
  | .opened => .str "open"

/-- The JSON name of a paper state. -/
def PaperState.json : PaperState → Json
  | .present => .str "present"
  | .absent => .str "absent"

namespace Session

/-! ## Events and waiting reports -/

/-- Write an event line and let the writer drain. -/
def sendEvent (event : PushedEvent) : Py Unit := do
  emit (.pushed event)
  pause

/-- Push a `waiting` event when the reason changed; the new state of the reporter is returned. -/
def report (state : Option WaitingReason) (reason : WaitingReason) :
    Py (Option WaitingReason) := do
  if state = some reason then
    return state
  else
    sendEvent (.waiting reason)
    return some reason

/-- The reason pushed for a failed connection attempt. -/
def unreachableReason (exc : PyExc) : WaitingReason :=
  if contains "adapter" exc.message.toLower then .adapterOff else .printerOff

/-- One attempt to bring the connection up, reporting why it is down. -/
def connectOnce (env : Env) (state : Option WaitingReason) : Py (Option WaitingReason) := do
  let state ← if state.isNone then report state .connecting else pure state
  handle
    (do
      Bridge.connect env none none
      return state)
    fun exc =>
      if exc.IsConnectionError then do
        let state ← report state (unreachableReason exc)
        pause
        return state
      else
        raise exc

/-! ## The printer of a command -/

/-- The connected printer. -/
def requirePrinter : Py PrinterId := do
  let w ← read
  match w.bridge.printer with
  | some p => if w.isConnected p then return p else raise (.commandError "not connected")
  | none => raise (.commandError "not connected")

/-- Turn a `ConnectionError` into the reply that the printer is not reachable. -/
def orNotReachable (body : Py Unit) : Py Unit :=
  handle body fun exc =>
    if exc.IsConnectionError then
      let text := exc.message
      raise (.commandError s!"printer not reachable: {text}")
    else
      raise exc

/-- The printer, reconnected once if it sits on the connection without answering. -/
def answeringPrinter (env : Env) : Py PrinterId := do
  let p ← requirePrinter
  let paper ← Printer.queryPaper p
  if paper.isNone then
    orNotReachable (Printer.reconnect env p)
  return p

/-! ## Waiting for a sheet -/

/-- `_MUTE_THRESHOLD`. -/
def muteThreshold : Nat := 3

/-- Exceptions the settling wait swallows. -/
def settleFailure : PyExc → Bool
  | .timeoutError _ => true
  | .connectionError _ => true
  | _ => false

/-- Reconnect a printer that does not answer; a failure is followed by a pause. -/
def reconnectMute (env : Env) (p : PrinterId) : Py Unit :=
  handle (Printer.reconnect env p) fun exc =>
    if exc.IsConnectionError then pause else raise exc

/-- The reason a readiness check is reported with. -/
def waitingReason (readiness : Printer.Readiness) (emptyReason : WaitingReason) :
    WaitingReason :=
  if readiness = .lidOpen then .lidOpen else emptyReason

/-- One round of `_wait_ready` on a connected printer. -/
def readyRound (env : Env) (p : PrinterId) (settle : ℚ) (emptyReason : WaitingReason)
    (timeouts : Nat) (state : Option WaitingReason) :
    Py ((Nat × Option WaitingReason) ⊕ Unit) := do
  let checked ← excepting (fun exc => exc.IsConnectionError) (Printer.checkReady p)
  match checked with
  | none => return .inl (timeouts, state)
  | some .ready =>
      if settle ≤ 0 then
        return .inr ()
      else
        let settled ← excepting settleFailure (Printer.waitForReady env p 10000 settle)
        match settled with
        | none => return .inl (timeouts, state)
        | some () => return .inr ()
  | some readiness =>
      if readiness.couldNotQuery then
        if muteThreshold ≤ timeouts + 1 then
          reconnectMute env p
          return .inl (0, state)
        else
          pause
          return .inl (timeouts + 1, state)
      else
        let state ← report state (waitingReason readiness emptyReason)
        pause
        return .inl (0, state)

/-- Block until a sheet is seated, pushing `waiting` events meanwhile. -/
def waitReady (env : Env) (settle : ℚ) (emptyReason : WaitingReason) : Py Unit :=
  iterate (fun (timeouts, state) => do
    let w ← read
    if w.session.abort then
      raise (.commandError "cancelled")
    else
      match w.bridge.printer with
      | some p =>
          if w.isConnected p then
            readyRound env p settle emptyReason timeouts state
          else
            let state ← connectOnce env state
            return .inl (timeouts, state)
      | none =>
          let state ← connectOnce env state
          return .inl (timeouts, state)) (0, none)

/-! ## The page pipeline -/

/-- `_recover_link`: reconnect the bridge's printer, whatever comes of it. -/
def recoverLink (env : Env) : Py Unit := do
  let w ← read
  match w.bridge.printer with
  | none => pure ()
  | some p =>
      handle (Printer.reconnect env p) fun exc =>
        if exc.IsConnectionError then emit .recoveryFailed else raise exc

/-- Clear a short sheet still held by the rollers after an overrun. -/
def ejectRemainder (p : PrinterId) : Py Unit :=
  handle (do let _ ← Printer.ejectPaper p) fun exc =>
    if exc.IsOsError then pure () else raise exc

/-- Bring the connection up, however long it takes. -/
def awaitLink (env : Env) : Py (Option WaitingReason) :=
  iterate (fun state => do
    let w ← read
    if w.bridgeConnected then
      return .inr state
    else if w.session.abort then
      raise (.commandError "cancelled")
    else
      let state ← connectOnce env state
      return .inl state) none

/-- Poll the lid until it is closed; a printer that stops answering is reconnected. -/
def awaitLidClosed (env : Env) (p : PrinterId) (state : Option WaitingReason) : Py Unit :=
  iterate (fun (timeouts, state) => do
    let w ← read
    if w.session.abort then
      raise (.commandError "cancelled")
    else
      let lid ← excepting (fun exc => exc.IsConnectionError) (Printer.queryLid p)
      match lid.join with
      | some .closed => return .inr ()
      | some .opened =>
          let state ← report state .lidOpen
          pause
          return .inl (timeouts, state)
      | none =>
          if muteThreshold ≤ timeouts + 1 then
            recoverLink env
            pause
            return .inl (0, state)
          else
            pause
            return .inl (timeouts + 1, state)) (0, state)

/-- Drop the sheet sensed right after the lid closed. -/
def dropOldSheet (p : PrinterId) : Py Unit := do
  let paper ← excepting (fun exc => exc.IsConnectionError) (Printer.queryPaper p)
  emit (.sheetChecked paper.join)
  if paper.join = some .present then
    let gone ← handle (Printer.ejectPaper p) fun exc => do
      emit (.oldSheetStuck exc)
      raise exc
    emit (.oldSheetEjected gone)

/-- Wait for the lid to close, drop a sheet already inside, wait for a new one. -/
def waitForFreshSheet (env : Env) (emptyReason : WaitingReason := .noSheet) : Py Unit := do
  let state ← awaitLink env
  let p ← requirePrinter
  awaitLidClosed env p state
  dropOldSheet p
  waitReady env env.settleSeconds emptyReason

/-- The progress callback: push the percentage, in steps of five, when it changed. -/
def onProgress (p : PrinterId) (height : Nat) : Py Unit := do
  let w ← read
  let percent : Int :=
    if height = 0 then 100 else (100 * (w.printers p).rowsSent / height / 5 * 5 : Nat)
  if percent ≠ w.session.lastPercent then
    modify fun w => w.setSession fun session => { session with lastPercent := percent }
    emit (.pushed (.progress percent))

/-- Send one page and push progress events until the motor stops. -/
def printPage (p : PrinterId) (bitmap : Bytes) (height : Nat) (density : Density) : Py Unit := do
  modify fun w => w.setSession fun session => { session with lastPercent := -1 }
  Printer.printBitmap p bitmap height (some density) (fun w => w.session.abort)
    fun _ _ => onProgress p height
  let w ← read
  if w.session.lastPercent ≠ 100 then
    sendEvent (.progress 100)

/-- Answer an interrupted attempt: raise to end the page, or return to print it again. -/
def recover (env : Env) (p : PrinterId) (exc : PyExc) : Py Unit :=
  match exc with
  | .sheetRanOut _ => do
      emit .interrupted
      recoverLink env
      ejectRemainder p
      waitForFreshSheet env .shortSheet
  | .printAborted .cancelled => do
      pause
      let _ ← Printer.ejectPaper p
      raise (.commandError AbortReason.cancelled.text)
  | .printAborted .lidOpened => do
      emit .interrupted
      waitForFreshSheet env
  | .connectionError _ => do
      emit .interrupted
      waitForFreshSheet env
  | .timeoutError text => raise (.commandError s!"connection lost: {text}")
  | .osError text => raise (.commandError s!"connection lost: {text}")
  | other => raise other

/-- Print attempts until one completes. -/
def printAttempts (env : Env) (p : PrinterId) (bitmap : Bytes) (height : Nat)
    (density : Density) : Py Unit :=
  forever
    (handle
      (do
        printPage p bitmap height density
        return some ())
      fun exc => do
        recover env p exc
        return none)

/-- Prepare the page for a printer, off the event loop. -/
def preparedPage (env : Env) (p : PrinterId) (page : PageBuffer) : Py (Bytes × Nat) := do
  let w ← read
  let profile := (w.printers p).profile
  pause
  let prepared ← ofExcept
    (preparePage env.diffuse page.image profile page.mediaLengthMm page.tone page.rotate)
  pause
  let bitmap ← ofExcept (imageToBitmap prepared)
  return (bitmap, prepared.height)

/-- Print the page, then eject it. -/
def printComplete (env : Env) (p : PrinterId) (page : PageBuffer) : Py Result := do
  let (bitmap, height) ← preparedPage env p page
  printAttempts env p bitmap height page.density
  handle (do let _ ← Printer.ejectPaper p) fun exc => do
    emit (.finalEjectFailed exc)
    raise exc
  return [("impressions", .int 1)]

/-! ## Command handlers -/

/-- Note that the session has used the connection. -/
def useLink : Py Unit :=
  modify fun w => w.setSession fun session => { session with usedLink := true }

def cmdDiscover (env : Env) (timeout : Except PyExc ℚ) : Py Result := do
  let _ ← ofExcept timeout
  let found ← Bridge.discover env
  let entries := found.map fun found =>
    Json.obj
      ([("name", .ofString found.device.name), ("address", .str found.device.address),
          ("model", .str found.profile.name)] ++
        match found.resolved with
        | some resolved => [("serial", .ofString found.serial), ("resolved", .bool resolved)]
        | none => [])
  return [("printers", .arr entries)]

/-- Connect if reachable. -/
def cmdOpen (env : Env) (address model : Option String) : Py Result := do
  useLink
  let refused ← handle
    (do
      Bridge.connect env address model
      return none)
    fun exc => if exc.IsConnectionError then return some exc else raise exc
  match refused with
  | some exc =>
      emit (.openAnswered address model false)
      return [("connected", .bool false), ("reason", .str exc.message)]
  | none =>
      let w ← read
      match w.bridge.printer with
      | some p =>
          emit (.openAnswered address model true)
          return [("connected", .bool true), ("model", .str (w.printers p).profile.name)]
      | none => raise (.assertionError "")

def cmdClose (env : Env) : Py Result := do
  Bridge.startHold env
  emit .closeAnswered
  return []

/-- Drop the connection now instead of leaving it to the idle timer. -/
def cmdDisconnect : Py Result := do
  modify fun w => w.setSession fun session => { session with usedLink := false }
  Bridge.disconnect
  return []

def cmdInfo (env : Env) : Py Result := do
  let p ← answeringPrinter env
  let info ← Printer.queryDeviceInfo p
  let w ← read
  let printer := w.printers p
  let values : Result :=
    [("model", .str printer.profile.name), ("firmware", .ofString info.firmware),
      ("serial", .ofString info.serial), ("battery", .ofInt (info.battery.map Int.ofNat)),
      ("auto_off_minutes", .ofInt info.autoOffMinutes),
      ("lid", (info.lid.map LidState.json).getD .null),
      ("paper", (info.paper.map PaperState.json).getD .null)]
  Bridge.remember printer.addressText values
  return ("address", .ofString printer.addressText) :: values

/-- Read the auto-off timer, setting it first when `minutes` is given. -/
def cmdAutoOff (env : Env) (minutes : Json) : Py Result := do
  let p ← answeringPrinter env
  match minutes with
  | .null => pure ()
  | .int minutes =>
      handle (Printer.setAutoOffTimer p minutes) fun exc =>
        match exc with
        | .valueError text => raise (.commandError text)
        | other => raise other
  | other =>
      let shown := env.repr other
      raise (.commandError s!"minutes must be an integer, got {shown}")
  let current ← Printer.queryAutoOff p
  let w ← read
  Bridge.remember (w.printers p).addressText [("auto_off_minutes", .ofInt current)]
  return [("auto_off_minutes", .ofInt current)]

/-- The live sensors of the linked printer. -/
def liveStatus (env : Env) : Py Result := do
  let p ← answeringPrinter env
  let lid ← Printer.queryLid p
  let paper ← Printer.queryPaper p
  let battery ← Printer.queryBattery p
  let w ← read
  let printer := w.printers p
  let values : Result :=
    [("model", .str printer.profile.name), ("lid", (lid.map LidState.json).getD .null),
      ("paper", (paper.map PaperState.json).getD .null),
      ("battery", .ofInt (battery.map Int.ofNat))]
  Bridge.remember printer.addressText values
  return ("connected", .bool true) :: ("address", .ofString printer.addressText) :: values

/-- Live sensors of the linked printer, else what was last read. -/
def cmdStatus (env : Env) (address : Option String) : Py Result := do
  let w ← read
  if w.bridgeConnected ∧ (address = none ∨ address = Bridge.linkedAddress w) then
    liveStatus env
  else
    let target := if address.isSome then address else Bridge.linkedAddress w
    let shown := match target with | some target => [("address", .str target)] | none => []
    let other :=
      if w.bridgeConnected ∧ target ≠ Bridge.linkedAddress w then
        [("connected_to", .ofString (Bridge.linkedAddress w))]
      else []
    let seen := match Bridge.lastSeen w target with
      | some seen => [("last_seen", .obj seen)]
      | none => []
    return [("connected", .bool false)] ++ shown ++ other ++ seen

/-- Connect for a command that needs the printer. -/
def connectFor (env : Env) : Py Unit := do
  let w ← read
  if !w.bridgeConnected then
    orNotReachable (Bridge.connect env none none)

/-- Make the printer noticeable: eject a loaded sheet, then pulse the feed. -/
def cmdIdentify (env : Env) : Py Result := do
  useLink
  connectFor env
  let p ← answeringPrinter env
  let paper ← Printer.queryPaper p
  if paper = some .present then
    let _ ← Printer.ejectPaper p
    pause
  times 3 (do
    Printer.feed p 40
    let _ ← Printer.queryPaper p
    pause)
  return []

/-- A worker thread that renders or saves an image. -/
def runThread : Py Unit := do
  let answer ← tick
  match answer.threadError with
  | some exc => raise exc
  | none => pure ()

/-- Query the device and render the test page. -/
def cmdTestPage (env : Env) : Py Result := do
  useLink
  connectFor env
  let p ← answeringPrinter env
  let _ ← Printer.queryDeviceInfo p
  runThread
  runThread
  return [("path", .str "phomemo-testpage.png")]

def cmdEject : Py Result := do
  useLink
  let p ← requirePrinter
  let gone ← Printer.ejectPaper p
  return [("ejected", .bool gone)]

def cmdWaitReady (env : Env) (settle : Option (Except PyExc ℚ)) : Py Result := do
  let settle ← ofExcept (settle.getD (.ok env.settleSeconds))
  waitReady env settle .noSheet
  return []

def cmdPageBegin (page : Except PyExc PageBuffer) : Py Result := do
  let page ← ofExcept page
  modify fun w => w.setSession fun session => { session with page := some page }
  return []

def cmdLines (count : Except PyExc Int) (payload : Bytes) : Py Result := do
  let w ← read
  match w.session.page with
  | none => raise (.commandError "no page in progress")
  | some page =>
      let count ← ofExcept count
      let rows := count.toNat
      if sized : 0 < count ∧ payload.length = rows * page.rowBytes then
        if fits : page.rows + rows ≤ page.lengthRows then
          let next := page.addLines rows payload sized.2 fits
          modify fun w => w.setSession fun session => { session with page := some next }
          return [("rows", .int next.rows)]
        else
          let total := page.rows + rows
          let declared := page.lengthRows
          raise (.commandError s!"{total} rows exceed the declared length_rows {declared}")
      else
        let expected := count * page.rowBytes
        let got := payload.length
        raise (.commandError s!"expected {expected} bytes for {count} rows, got {got}")

/-- Print the page in progress. -/
def cmdPageEnd (env : Env) : Py Result := do
  let w ← read
  match w.session.page with
  | none => raise (.commandError "no page in progress")
  | some page =>
      if page.Complete then
        let p ← requirePrinter
        useLink
        andFinally (printComplete env p page)
          (modify fun w => w.setSession fun session => { session with page := none })
      else
        let rows := page.rows
        let declared := page.lengthRows
        raise (.commandError s!"received {rows} of {declared} rows")

/-- The handler of a command. -/
def handler (env : Env) : Command → Py Result
  | .discover timeout => cmdDiscover env timeout
  | .open address model => cmdOpen env address model
  | .close => cmdClose env
  | .disconnect => cmdDisconnect
  | .status address => cmdStatus env address
  | .info => cmdInfo env
  | .autoOff minutes => cmdAutoOff env minutes
  | .identify => cmdIdentify env
  | .testPage => cmdTestPage env
  | .waitReady settle => cmdWaitReady env settle
  | .pageBegin page => cmdPageBegin page
  | .lines count payload => cmdLines count payload
  | .pageEnd => cmdPageEnd env
  | .eject => cmdEject

/-- The error text of an exception a handler let through. -/
def errorText : PyExc → String
  | .commandError text => text
  | exc =>
      let name := exc.className
      let text := exc.message
      s!"{name}: {text}"

/-- Accept a command, run its handler, reply, and clear the pending slot. -/
def runCommand (env : Env) (command : Command) : Py Reply := do
  let w ← read
  emit (.commandBegan command.name (0 < w.bridge.holdScheduled))
  modify fun w => w.setSession fun session =>
    { session with pendingCmd := some command.name, abort := false }
  let reply ← handle
    (do
      let result ← handler env command
      return .ok result)
    fun exc => return .error (errorText exc)
  emit (.replied command.name reply)
  pause
  modify fun w => w.setSession fun session => { session with pendingCmd := none }
  return reply

/-! ## Runs -/

/-- A client connects; while another session is active it is turned away. -/
def begin : Py Unit :=
  modify fun w =>
    if w.bridge.sessionActive then w
    else { w with session := {}, bridge := { w.bridge with sessionActive := true } }

/-- The client disconnects: the link is left to the idle timer if the session used it. -/
def finish (env : Env) : Py Unit := do
  let w ← read
  if w.bridge.sessionActive then
    modify fun w => w.setBridge fun bridge => { bridge with sessionActive := false }
    emit .sessionEnded
    if w.session.usedLink then
      Bridge.startHold env

/-- What happens next on the bridge. -/
inductive Move where
  /-- A client connects. -/
  | begins
  /-- The active session's client sends a command. -/
  | command (command : Command)
  /-- The active session's client disconnects. -/
  | ends
  /-- Nothing is pending for a while. -/
  | idle

/-- One move. -/
def move (env : Env) : Move → Py Unit
  | .begins => begin
  | .command command => do
      let w ← read
      if w.bridge.sessionActive then
        let _ ← runCommand env command
  | .ends => finish env
  | .idle => pause

/-- A run of the bridge. -/
def runMoves (env : Env) (moves : List Move) : Py Unit := forEach moves (move env)

end Session

end Phomemo
