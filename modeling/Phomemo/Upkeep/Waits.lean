import Phomemo.Upkeep.Connect

/-!
# Invariants of the waits

The waits of the page pipeline: for the connection, the lid, a fresh sheet and readiness.
-/

namespace Phomemo

open Async Coroutine

/-- Exceptions that are not caught escape. -/
theorem upholds_excepting {α : Type} {rely : TraceEvent → Prop}
    {inv : World → List TraceEvent → Prop} {fails escapes : PyExc → Prop} {kinds : PyExc → Bool}
    {body : Py α} (upholds : Upholds rely inv fails body)
    (uncaught : ∀ exc, fails exc → kinds exc ≠ true → escapes exc) :
    Upholds rely inv escapes (excepting kinds body) := by
  apply Upholds.handle (Upholds.bind upholds fun _ => Upholds.pure _)
  intro exc failed
  apply Upholds.ite
  · exact fun _ => Upholds.pure _
  · exact fun other => Upholds.raise (uncaught exc failed other)

theorem keeps_excepting {α : Type} {rely : TraceEvent → Prop}
    {inv : World → List TraceEvent → Prop} {kinds : PyExc → Bool} {body : Py α}
    (keeps : Keeps rely inv body) : Keeps rely inv (excepting kinds body) :=
  upholds_excepting keeps fun _ _ _ => trivial

theorem keeps_orNotReachable {rely : TraceEvent → Prop} {inv : World → List TraceEvent → Prop}
    {body : Py Unit} (keeps : Keeps rely inv body) :
    Keeps rely inv (Session.orNotReachable body) := by
  apply Upholds.handle keeps
  intro exc _
  apply Upholds.ite
  · exact fun _ => Upholds.raise trivial
  · exact fun _ => Upholds.raise trivial

/-- Exceptions that end a page as they are. -/
structure PyExc.EndsPage (exc : PyExc) : Prop where
  sheetRanOut : ∀ text, exc ≠ .sheetRanOut text
  printAborted : ∀ reason, exc ≠ .printAborted reason
  connectionError : ∀ text, exc ≠ .connectionError text
  timeoutError : ∀ text, exc ≠ .timeoutError text
  osError : ∀ text, exc ≠ .osError text

/-- The ways an interrupted attempt is answered. -/
theorem ensures_recover {rely : TraceEvent → Prop} {env : Env} {p : PrinterId} {exc : PyExc}
    {post : Post PyExc World TraceEvent Unit} {w : World} {past : List TraceEvent}
    (ranOut : ∀ text, exc = .sheetRanOut text → Ensures rely (do
      emit .interrupted
      Session.recoverLink env
      Session.ejectRemainder p
      Session.waitForFreshSheet env .shortSheet) post w past)
    (cancelled : exc = .printAborted .cancelled → Ensures rely (do
      pause
      let _ ← Printer.ejectPaper p
      raise (.commandError AbortReason.cancelled.text)) post w past)
    (interrupted : exc = .printAborted .lidOpened ∨ (∃ text, exc = .connectionError text) →
      Ensures rely (do
        emit .interrupted
        Session.waitForFreshSheet env) post w past)
    (lost : ∀ text, exc = .timeoutError text ∨ exc = .osError text →
      post.raised (.commandError s!"connection lost: {text}") w past)
    (other : exc.EndsPage → post.raised exc w past) :
    Ensures rely (Session.recover env p exc) post w past := by
  cases exc with
  | sheetRanOut text => exact ranOut text rfl
  | printAborted reason =>
      cases reason with
      | cancelled => exact cancelled rfl
      | lidOpened => exact interrupted (.inl rfl)
  | connectionError text => exact interrupted (.inr ⟨text, rfl⟩)
  | timeoutError text => exact Ensures.raise (lost text (.inl rfl))
  | osError text => exact Ensures.raise (lost text (.inr rfl))
  | runtimeError text => exact Ensures.raise (other ⟨nofun, nofun, nofun, nofun, nofun⟩)
  | recursionError text => exact Ensures.raise (other ⟨nofun, nofun, nofun, nofun, nofun⟩)
  | valueError text => exact Ensures.raise (other ⟨nofun, nofun, nofun, nofun, nofun⟩)
  | typeError text => exact Ensures.raise (other ⟨nofun, nofun, nofun, nofun, nofun⟩)
  | overflowError text => exact Ensures.raise (other ⟨nofun, nofun, nofun, nofun, nofun⟩)
  | zeroDivisionError text => exact Ensures.raise (other ⟨nofun, nofun, nofun, nofun, nofun⟩)
  | attributeError text => exact Ensures.raise (other ⟨nofun, nofun, nofun, nofun, nofun⟩)
  | keyError text => exact Ensures.raise (other ⟨nofun, nofun, nofun, nofun, nofun⟩)
  | assertionError text => exact Ensures.raise (other ⟨nofun, nofun, nofun, nofun, nofun⟩)
  | bleakError text => exact Ensures.raise (other ⟨nofun, nofun, nofun, nofun, nofun⟩)
  | patternError text => exact Ensures.raise (other ⟨nofun, nofun, nofun, nofun, nofun⟩)
  | commandError text => exact Ensures.raise (other ⟨nofun, nofun, nofun, nofun, nofun⟩)

namespace IdleStable

variable {rely : TraceEvent → Prop} {inv : World → List TraceEvent → Prop}
  {fails : PyExc → Prop}

theorem sendEvent (stable : IdleStable rely inv) (event : PushedEvent) :
    Upholds rely inv fails (Session.sendEvent event) :=
  Upholds.bind (stable.emit (.pushed event)) fun _ => stable.pause

theorem report (stable : IdleStable rely inv) (state : Option WaitingReason)
    (reason : WaitingReason) : Upholds rely inv fails (Session.report state reason) := by
  apply Upholds.ite
  · exact fun _ => Upholds.pure _
  · exact fun _ => Upholds.bind (stable.sendEvent _) fun _ => Upholds.pure _

theorem onProgress (stable : IdleStable rely inv) (p : PrinterId) (height : Nat) :
    Upholds rely inv fails (Session.onProgress p height) := by
  apply Upholds.bind Upholds.read
  intro w
  apply Upholds.ite
  · intro _
    apply Upholds.bind (stable.modify fun w => World.quiet_setSession rfl rfl rfl)
    exact fun _ => stable.emit (.pushed _)
  · exact fun _ => Upholds.pure _

/-- The page is prepared for the profile the printer has when the command starts on it. -/
theorem ensures_preparedPage (stable : IdleStable rely inv) (env : Env) (p : PrinterId)
    (page : PageBuffer) {w : World} {past : List TraceEvent} (holds : inv w past) :
    Ensures rely (Session.preparedPage env p page)
      ⟨fun prepared w' past => inv w' past ∧ ∃ image,
          preparePage env.diffuse page.image (w.printers p).profile page.mediaLengthMm page.tone
            page.rotate = .ok image ∧
          imageToBitmap image = .ok prepared.1 ∧ prepared.2 = image.height,
        fun error w' past => inv w' past ∧
          (preparePage env.diffuse page.image (w.printers p).profile page.mediaLengthMm page.tone
            page.rotate = .error error ∨
          ∃ image, preparePage env.diffuse page.image (w.printers p).profile page.mediaLengthMm
            page.tone page.rotate = .ok image ∧ imageToBitmap image = .error error),
        inv⟩ w past := by
  have pauses : Upholds rely inv (fun _ => False) Phomemo.pause := stable.pause
  apply Ensures.read_bind
  apply Upholds.seq pauses holds
  · intro _ w past holds
    cases prepared : preparePage env.diffuse page.image _ page.mediaLengthMm page.tone
        page.rotate with
    | error exc => exact Ensures.raise ⟨holds, .inl rfl⟩
    | ok image =>
        apply Upholds.seq pauses holds
        · intro _ w past holds
          cases packed : imageToBitmap image with
          | error exc => exact Ensures.raise ⟨holds, .inr ⟨image, rfl, packed⟩⟩
          | ok bitmap => exact Ensures.pure ⟨holds, image, rfl, packed, rfl⟩
        · exact fun _ _ _ _ => False.elim
        · exact fun _ _ => id
  · exact fun _ _ _ _ => False.elim
  · exact fun _ _ => id

theorem preparedPage (stable : IdleStable rely inv) (env : Env) (p : PrinterId)
    (page : PageBuffer) : Keeps rely inv (Session.preparedPage env p page) :=
  fun _ _ holds => (stable.ensures_preparedPage env p page holds).mono (fun _ _ _ => And.left)
    (fun _ _ _ raised => ⟨raised.1, trivial⟩) (fun _ _ => id)

theorem connectOnce {env : Env} (stable : IdleStable rely inv)
    (connects : Keeps rely inv (Bridge.connect env none none)) (state : Option WaitingReason) :
    Keeps rely inv (Session.connectOnce env state) := by
  have attempts : ∀ state, Keeps rely inv (handle
      (do
        Bridge.connect env none none
        return state)
      fun exc =>
        if exc.IsConnectionError then do
          let state ← Session.report state (Session.unreachableReason exc)
          Phomemo.pause
          return state
        else
          raise exc) := by
    intro state
    apply Upholds.handle (Upholds.bind connects fun _ => Upholds.pure _)
    intro exc _
    apply Upholds.ite
    · intro _
      apply Upholds.bind (stable.report _ _)
      exact fun _ => Upholds.bind stable.pause fun _ => Upholds.pure _
    · exact fun _ => Upholds.raise trivial
  apply Upholds.ite
  · exact fun _ => Upholds.bind (stable.report _ _) fun _ => attempts _
  · exact fun _ => attempts state

end IdleStable

namespace WaitStable

variable {env : Env} {rely : TraceEvent → Prop}
  {inv : List PrinterId → World → List TraceEvent → Prop}
  {mine : List PrinterId} {p : PrinterId}

theorem connectOnce (stable : WaitStable env rely inv) (state : Option WaitingReason) :
    Keeps rely (inv mine) (Session.connectOnce env state) :=
  (stable.idle mine).connectOnce (stable.connect mine) state

/-- The connected printer is in hand from here on. -/
theorem ensures_requirePrinter (stable : WaitStable env rely inv) {w : World}
    {past : List TraceEvent} (holds : inv mine w past) :
    Ensures rely Session.requirePrinter
      ⟨fun p => inv (p :: mine), fun _ => inv mine, inv mine⟩ w past := by
  apply Ensures.read_bind
  cases held : w.bridge.printer with
  | none => exact Ensures.raise holds
  | some p =>
      apply Ensures.ite
      · exact fun _ => Ensures.pure (stable.hold mine w past p holds held)
      · exact fun _ => Ensures.raise holds

theorem bind_requirePrinter {α : Type} (stable : WaitStable env rely inv)
    {next : PrinterId → Py α} (rest : ∀ p, Keeps rely (inv (p :: mine)) (next p)) :
    Keeps rely (inv mine) (Session.requirePrinter >>= next) :=
  stable.bind_printer (fun _ _ holds => stable.ensures_requirePrinter holds) rest

theorem bind_answeringPrinter {α : Type} (stable : WaitStable env rely inv)
    {next : PrinterId → Py α} (rest : ∀ p, Keeps rely (inv (p :: mine)) (next p)) :
    Keeps rely (inv mine) (Session.answeringPrinter env >>= next) := by
  apply stable.bind_printer _ rest
  intro w past holds
  apply Ensures.seq (stable.ensures_requirePrinter holds)
  · intro p w past holds
    have linked := stable.device (p :: mine) p List.mem_cons_self
    have letsGo : ∀ w past, inv (p :: mine) w past → inv mine w past :=
      fun w past => stable.letGo mine w past p
    have asks : Keeps rely (inv (p :: mine)) (Printer.queryPaper p) := linked.queryPaper .any
    apply Upholds.seq asks holds
    · intro paper w past holds
      apply Ensures.ite
      · intro _
        apply Upholds.seq (keeps_orNotReachable (linked.reconnect)) holds
        · exact fun _ _ _ holds => Ensures.pure holds
        · exact fun _ w past holds _ => letsGo w past holds
        · exact letsGo
      · exact fun _ => Ensures.pure holds
    · exact fun _ w past holds _ => letsGo w past holds
    · exact letsGo
  · exact fun _ _ _ => id
  · exact fun _ _ => id

/-! ## Waiting for a sheet -/

theorem reconnectMute (stable : WaitStable env rely inv) (inHand : p ∈ mine) :
    Keeps rely (inv mine) (Session.reconnectMute env p) := by
  have linked := stable.device mine p inHand
  apply Upholds.handle (linked.reconnect)
  intro exc _
  apply Upholds.ite
  · exact fun _ => linked.pause
  · exact fun _ => Upholds.raise trivial

theorem readyRound (stable : WaitStable env rely inv) (inHand : p ∈ mine) (settle : ℚ)
    (emptyReason : WaitingReason) (timeouts : Nat) (state : Option WaitingReason) :
    Keeps rely (inv mine) (Session.readyRound env p settle emptyReason timeouts state) := by
  have linked := stable.device mine p inHand
  have unready : ∀ readiness : Printer.Readiness, Keeps rely (inv mine)
      (if readiness.couldNotQuery then
        if Session.muteThreshold ≤ timeouts + 1 then do
          Session.reconnectMute env p
          return .inl (0, state)
        else do
          pause
          return .inl (timeouts + 1, state)
      else do
        let state ← Session.report state (Session.waitingReason readiness emptyReason)
        pause
        return .inl (0, state) : Py ((Nat × Option WaitingReason) ⊕ Unit)) := by
    intro readiness
    apply Upholds.ite
    · intro _
      apply Upholds.ite
      · exact fun _ => Upholds.bind (stable.reconnectMute inHand) fun _ => Upholds.pure _
      · exact fun _ => Upholds.bind linked.pause fun _ => Upholds.pure _
    · intro _
      apply Upholds.bind (linked.report _ _)
      exact fun _ => Upholds.bind linked.pause fun _ => Upholds.pure _
  apply Upholds.bind (keeps_excepting (linked.checkReady .any))
  rintro (_ | readiness)
  · exact Upholds.pure _
  · cases readiness with
    | ready =>
        apply Upholds.ite
        · exact fun _ => Upholds.pure _
        · intro _
          apply Upholds.bind (keeps_excepting (linked.waitForReady _ _))
          rintro (_ | _) <;> exact Upholds.pure _
    | lidUnknown => exact unready .lidUnknown
    | lidOpen => exact unready .lidOpen
    | paperUnknown => exact unready .paperUnknown
    | noPaper => exact unready .noPaper

theorem waitReady (stable : WaitStable env rely inv) (settle : ℚ)
    (emptyReason : WaitingReason) :
    Keeps rely (inv mine) (Session.waitReady env settle emptyReason) := by
  apply Upholds.iterate
  rintro ⟨timeouts, state⟩
  apply Upholds.read_bind
  intro w past holds
  have connects : Keeps rely (inv mine) (Session.connectOnce env state >>= fun state =>
      pure (.inl (timeouts, state) : (Nat × Option WaitingReason) ⊕ Unit)) :=
    Upholds.bind (stable.connectOnce state) fun _ => Upholds.pure _
  apply Ensures.ite
  · exact fun _ => Ensures.raise ⟨holds, trivial⟩
  · intro _
    cases held : w.bridge.printer with
    | none => exact connects w past holds
    | some p =>
        apply Ensures.ite
        · intro _
          exact stable.holding
            (stable.readyRound List.mem_cons_self settle emptyReason timeouts state) holds held
        · exact fun _ => connects w past holds

/-! ## Waiting for a fresh sheet -/

theorem recoverLink (stable : WaitStable env rely inv) :
    Keeps rely (inv mine) (Session.recoverLink env) := by
  apply Upholds.read_bind
  intro w past holds
  cases held : w.bridge.printer with
  | none => exact Ensures.pure holds
  | some p =>
      refine stable.holding ?_ holds held
      apply Upholds.handle ((stable.device _ p List.mem_cons_self).reconnect)
      intro exc _
      apply Upholds.ite
      · exact fun _ => stable.emit .recoveryFailed
      · exact fun _ => Upholds.raise trivial

theorem ejectRemainder (stable : WaitStable env rely inv) (inHand : p ∈ mine) :
    Keeps rely (inv mine) (Session.ejectRemainder p) := by
  have ejects : Keeps rely (inv mine) (Printer.ejectPaper p) :=
    (stable.device mine p inHand).ejectPaper .any
  apply Upholds.handle (Upholds.bind ejects fun _ => Upholds.pure _)
  intro exc _
  apply Upholds.ite
  · exact fun _ => Upholds.pure _
  · exact fun _ => Upholds.raise trivial

theorem awaitLink (stable : WaitStable env rely inv) :
    Keeps rely (inv mine) (Session.awaitLink env) := by
  apply Upholds.iterate
  intro state
  apply Upholds.bind Upholds.read
  intro w
  apply Upholds.ite
  · exact fun _ => Upholds.pure _
  · intro _
    apply Upholds.ite
    · exact fun _ => Upholds.raise trivial
    · exact fun _ => Upholds.bind (stable.connectOnce state) fun _ => Upholds.pure _

theorem awaitLidClosed (stable : WaitStable env rely inv) (inHand : p ∈ mine)
    (state : Option WaitingReason) :
    Keeps rely (inv mine) (Session.awaitLidClosed env p state) := by
  have linked := stable.device mine p inHand
  apply Upholds.iterate
  rintro ⟨timeouts, state⟩
  apply Upholds.bind Upholds.read
  intro w
  apply Upholds.ite
  · exact fun _ => Upholds.raise trivial
  · intro _
    apply Upholds.bind (keeps_excepting (linked.queryLid .any))
    intro lid
    cases lid.join with
    | none =>
        apply Upholds.ite
        · intro _
          apply Upholds.bind stable.recoverLink
          exact fun _ => Upholds.bind linked.pause fun _ => Upholds.pure _
        · exact fun _ => Upholds.bind linked.pause fun _ => Upholds.pure _
    | some lid =>
        cases lid with
        | closed => exact Upholds.pure _
        | opened =>
            apply Upholds.bind (linked.report _ _)
            exact fun _ => Upholds.bind linked.pause fun _ => Upholds.pure _

theorem dropOldSheet (stable : WaitStable env rely inv) (inHand : p ∈ mine) :
    Keeps rely (inv mine) (Session.dropOldSheet p) := by
  have linked := stable.device mine p inHand
  apply Upholds.bind (keeps_excepting (linked.queryPaper .any))
  intro paper
  apply Upholds.bind (stable.emit (.sheetChecked _))
  intro _
  apply Upholds.ite
  · intro _
    apply Upholds.bind
    · apply Upholds.handle (linked.ejectPaper .any)
      exact fun exc _ => Upholds.bind (stable.emit (.oldSheetStuck exc)) fun _ =>
        Upholds.raise trivial
    · exact fun gone => stable.emit (.oldSheetEjected gone)
  · exact fun _ => Upholds.pure _

theorem waitForFreshSheet (stable : WaitStable env rely inv)
    (emptyReason : WaitingReason) :
    Keeps rely (inv mine) (Session.waitForFreshSheet env emptyReason) := by
  apply Upholds.bind stable.awaitLink
  intro state
  apply stable.bind_requirePrinter
  intro p
  have inHand : p ∈ p :: mine := List.mem_cons_self
  apply Upholds.bind (stable.awaitLidClosed inHand state)
  intro _
  apply Upholds.bind (stable.dropOldSheet inHand)
  exact fun _ => stable.waitReady _ _

/-- Answering an interrupted attempt. -/
theorem recover (stable : WaitStable env rely inv) (inHand : p ∈ mine)
    (interrupted : ∀ w past, inv mine w past → rely .interrupted →
      inv mine w (past ++ [.interrupted])) (exc : PyExc) :
    Keeps rely (inv mine) (Session.recover env p exc) := by
  have linked := stable.device mine p inHand
  have interrupts : Keeps rely (inv mine) (Coroutine.emit .interrupted : Py Unit) :=
    Upholds.emit interrupted
  have ejects : Keeps rely (inv mine) (Printer.ejectPaper p) := linked.ejectPaper .any
  intro w past holds
  apply ensures_recover
  · intro _ _
    refine Upholds.bind interrupts (fun _ => ?_) w past holds
    apply Upholds.bind stable.recoverLink
    intro _
    apply Upholds.bind (stable.ejectRemainder inHand)
    exact fun _ => stable.waitForFreshSheet _
  · intro _
    refine Upholds.bind linked.pause (fun _ => ?_) w past holds
    exact Upholds.bind ejects fun _ => Upholds.raise trivial
  · intro _
    exact Upholds.bind interrupts (fun _ => stable.waitForFreshSheet _) w past holds
  · exact fun _ _ => ⟨holds, trivial⟩
  · exact fun _ => ⟨holds, trivial⟩

end WaitStable

/-! ## Properties of the trace -/

/-- The events of the waits and of all work on printers. -/
inductive TraceEvent.Ordinary : TraceEvent → Prop where
  | await {event : TraceEvent} (kind : event.OfAwait) : Ordinary event
  | wire {event : TraceEvent} (kind : event.OfWire) : Ordinary event
  | connect {event : TraceEvent} (kind : event.OfConnect) : Ordinary event
  | waits {event : TraceEvent} (kind : event.OfWaits) : Ordinary event
  | writeFailed (p : PrinterId) : Ordinary (.writeFailed p)
  | wrote (p : PrinterId) (address : String) (data : Bytes) : Ordinary (.wrote p address data)
  | dialed (p : PrinterId) (address : String) (overlapped : Bool) :
      Ordinary (.dialed p address overlapped)
  | resolved (asked : String) (found : Device) : Ordinary (.resolved asked found)
  | usedProfile (p : PrinterId) (old new : PrinterProfile) : Ordinary (.usedProfile p old new)
  | replacedPrinter (old new : PrinterId) : Ordinary (.replacedPrinter old new)

/-- A property of the trace that ordinary events keep. -/
def KeptByOrdinary (rely : TraceEvent → Prop) (keep : List TraceEvent → Prop) : Prop :=
  ∀ past event, event.Ordinary → keep past → rely event → keep (past ++ [event])

namespace KeptByOrdinary

variable {rely : TraceEvent → Prop} {keep : List TraceEvent → Prop}

theorem append (kept : KeptByOrdinary rely keep) {past later : List TraceEvent}
    (holds : keep past) (ordinary : ∀ event ∈ later, event.Ordinary)
    (relied : ∀ event ∈ later, rely event) : keep (past ++ later) := by
  induction later generalizing past with
  | nil => simpa using holds
  | cons event later ih =>
      have here := kept past event (ordinary event List.mem_cons_self) holds
        (relied event List.mem_cons_self)
      have rest := ih here (fun other member => ordinary other (List.mem_cons_of_mem _ member))
        (fun other member => relied other (List.mem_cons_of_mem _ member))
      simpa using rest

theorem idle (kept : KeptByOrdinary rely keep) : IdleStable rely fun _ past => keep past where
  awaken := fun _ _ answer holds relied =>
    kept.append holds (fun event member => .await (World.awakening_events answer event member))
      relied
  quiet := fun _ _ _ _ => id
  event := fun _ past event wire => kept past event (.wire wire)

theorem link (kept : KeptByOrdinary rely keep) (p : PrinterId) :
    LinkStable rely (fun _ past => keep past) p fun _ _ => True where
  toIdleStable := kept.idle
  wrote := fun _ past _ _ holds _ relied _ => kept past _ (.wrote _ _ _) holds relied
  lost := fun _ past => kept past _ (.writeFailed _)
  downed := fun _ _ => id
  hungUp := fun _ _ => id
  unset := fun _ _ => id
  dialed := fun _ past _ holds _ => kept past _ (.dialed _ _ _) holds
  up := fun _ _ => id
  negotiated := fun _ _ _ _ => id
  named := fun _ _ _ holds _ => holds
  learned := fun _ => trivial
  sought := fun _ _ _ => trivial
  handed := fun _ => trivial
  resolved := fun _ past _ _ => kept past _ (.resolved _ _)

theorem stream (kept : KeptByOrdinary rely keep) (p : PrinterId) :
    StreamStable rely (fun _ past => keep past) p where
  toWireStable := (kept.link p).toWireStable
  streamed := fun _ past _ _ holds _ => kept past _ (.wrote _ _ _) holds

theorem bridge (kept : KeptByOrdinary rely keep) (env : Env) :
    BridgeStable env rely (fun _ _ past => keep past) fun _ _ => True where
  idle := fun _ => kept.idle
  link := fun _ p _ => kept.link p
  hold := fun _ _ _ _ holds _ => holds
  letGo := fun _ _ _ _ => id
  marked := fun _ _ _ => id
  event := fun _ _ past event waits => kept past event (.waits waits)
  connecting := fun _ _ past event connect => kept past event (.connect connect)
  cancelHold := fun _ _ _ => id
  adopted := fun _ _ past _ _ holds _ _ => kept past _ (.connect (.lookedFor true)) holds
  usedProfile := fun _ _ past _ _ holds _ _ _ => kept past _ (.usedProfile _ _ _) holds
  replaced := fun _ _ past _ _ holds _ _ _ => kept past _ (.replacedPrinter _ _) holds

theorem waits (kept : KeptByOrdinary rely keep) (env : Env) :
    WaitStable env rely fun _ _ past => keep past := (kept.bridge env).waits

end KeptByOrdinary

end Phomemo
