import Phomemo.Bridge.Busy
import Phomemo.Bridge.NamedModel

/-!
# The idle timer

A hold that expires drops a connection no command uses and no client has open, as long as it
expires between commands, its disconnect starts before the next command, and no printer is dialed
while that disconnect still awaits its old client.
-/

namespace Phomemo

open Async Coroutine

/-! ## Commands -/

theorem busy_handlers (env : Env) (timer : Bool) :
    HandlerStable env HoldsApart (fun _ => Busy env timer) where
  idle := fun _ => (Busy.wire timer 0).toIdleStable
  hold := fun _ _ _ _ busy _ => busy
  letGo := fun _ _ _ _ => id
  marked := fun _ _ _ busy => busy.move ⟨rfl, id, rfl, fun _ => id, fun _ _ => id⟩
  event := fun _ _ _ _ waits busy _ => busy.note waits.aside
  device := fun _ p _ => Busy.device env timer p
  connect := fun _ _ _ busy => (busy.bridgeConnect env none none).mono
    (fun _ _ _ => Busy.loosen) (fun _ _ _ busy => ⟨busy.loosen, trivial⟩) fun _ _ => id
  page := fun _ _ _ _ page busy _ => busy.note page.aside
  streamed := fun _ p _ _ _ client data busy _ _ => busy.note (.wrote p client.address data)

theorem busy_probes (env : Env) (timer : Bool) :
    ProbeStable env HoldsApart (fun _ => Busy env timer) (fun _ => Busy env timer) where
  toHandStable := (busy_handlers env timer).toHandStable
  wire := Busy.wire timer
  probed := by
    intro w past device profile busy _
    apply busy.move
    refine ⟨rfl, id, rfl, fun _ => id, ?_⟩
    intro r _
    by_cases same : r = w.nextPrinter
    · rw [same, World.withPrinter_new]
      exact fun up => Bool.noConfusion up
    · rw [World.withPrinter_other same]
      exact id
  probe := fun q => Busy.device env timer q
  left := fun _ _ _ => id

namespace Busy

variable {env : Env} {w : World} {past : List TraceEvent}

theorem cmdOpen (env : Env) (busy : Busy env true w past)
    (address model : Option String) :
    Ensures HoldsApart (Session.cmdOpen env address model)
      ⟨fun _ => Busy env true, fun _ => Busy env true, Busy env true⟩ w past := by
  have used : Busy env true (w.setSession fun session => { session with usedLink := true }) past :=
    busy.move ⟨rfl, id, rfl, fun _ => id, fun _ _ => id⟩
  apply Ensures.modify_bind
  apply Ensures.bind
  apply Ensures.handle
  apply Ensures.seq (used.bridgeConnect env address model)
  · intro _ w past busy
    apply Ensures.pure
    apply Ensures.read_bind
    cases w.bridge.printer with
    | none => exact Ensures.raise busy.loosen
    | some p =>
        apply Ensures.emit_bind
        intro _
        apply Ensures.pure
        exact {
          idle := busy.idle.concat trivial
          pending := busy.pending
          unscheduled := busy.unscheduled
          parted := busy.parted
          disarmed := fun _ => busy.disarmed (.inr rfl) }
  · intro error w past busy
    apply Ensures.ite
    · intro _
      apply Ensures.pure
      apply Ensures.emit_bind
      intro _
      apply Ensures.pure
      exact busy.loosen.record trivial (Bool.or_false _)
    · exact fun _ => Ensures.raise busy.loosen
  · exact fun _ _ => id

theorem cmdDisconnect (env : Env) :
    Keeps HoldsApart (Busy env true) Session.cmdDisconnect := by
  apply @WaitStable.cmdDisconnect _ _ _ [] (busy_handlers env true).toWaitStable
  · exact fun _ _ busy => busy.cancel.loosen
  · exact fun _ _ busy => busy.move ⟨rfl, id, rfl, fun _ => id, fun _ _ => id⟩

/-- A close leaves the connection to the timer. -/
theorem cmdClose (env : Env) : Keeps HoldsApart (Busy env true) (Session.cmdClose env) := by
  intro w past busy
  have closes : ∀ armed, Busy env true
      (w.setBridge fun bridge => { bridge with holdArmed := armed })
      (past ++ [.closeAnswered]) := by
    intro armed
    refine ⟨busy.idle.concat trivial, busy.pending, busy.unscheduled, busy.parted, ?_⟩
    rw [opened_concat]
    rintro (isOpen | none)
    · cases isOpen
    · cases none
  apply Ensures.bind
  apply Ensures.modify_bind
  apply Ensures.read_bind
  apply Ensures.ite
  · intro _
    apply Ensures.modify
    apply Ensures.emit_bind
    exact fun _ => Ensures.pure (closes true)
  · intro _
    apply Ensures.pure
    apply Ensures.emit_bind
    exact fun _ => Ensures.pure (closes false)

end Busy

/-! ## Between commands -/

namespace Resting

variable {env : Env} {w after : World} {past : List TraceEvent}

theorem move (resting : Resting env w past) (unheld : w.Unheld after) : Resting env after past where
  idle := resting.idle
  unpending := unheld.pendingCmd.trans resting.unpending
  parted := unheld.parted resting.parted
  unheld := fun isOpen =>
    ⟨unheld.disarmed (resting.unheld isOpen).1, unheld.scheduled.trans (resting.unheld isOpen).2⟩

/-- One more event. -/
theorem record {event : TraceEvent} (resting : Resting env w past) (idle : HoldsIdle env past event)
    (opens : opens (opened past) event = true → opened past = true) :
    Resting env w (past ++ [event]) where
  idle := resting.idle.concat idle
  unpending := resting.unpending
  parted := resting.parted
  unheld := fun isOpen => resting.unheld (opens ((opened_concat past event).symm.trans isOpen))

theorem note {event : TraceEvent} (resting : Resting env w past) (aside : event.Aside) :
    Resting env w (past ++ [event]) :=
  resting.record (aside.idle env past) fun isOpen => (aside.opens _).symm.trans isOpen

/-- Without an open the timer and the tasks it created are free. -/
theorem free (resting : Resting env w past) (isClosed : opened past = false) {armed : Bool}
    {scheduled : Nat} :
    Resting env (w.setBridge fun bridge =>
      { bridge with holdArmed := armed, holdScheduled := scheduled }) past where
  idle := resting.idle
  unpending := resting.unpending
  parted := resting.parted
  unheld := fun isOpen => absurd (isClosed.symm.trans isOpen) Bool.false_ne_true

/-- A hold's disconnect starts: it takes down a connection no client has open. -/
theorem startHoldTask (resting : Resting env w past) (isClosed : opened past = false) :
    Resting env w.startHoldTask.1 (past ++ w.startHoldTask.2) := by
  have cancelled : Resting env w.cancelHold past := resting.move ⟨rfl, nofun, rfl, fun _ => id,
    fun _ _ => id⟩
  unfold World.startHoldTask
  dsimp only
  cases w.cancelHold.bridge.printer with
  | none => simpa using cancelled
  | some p =>
      dsimp only
      split
      · have down := cancelled.move (w.cancelHold.unheld_setConnected p)
        have noted : Resting env (w.cancelHold.setConnected p false)
            (past ++ [.holdDropped w.cancelHold.session.pendingCmd]) :=
          down.record ⟨resting.unpending, isClosed⟩ id
        exact {
          idle := noted.idle
          unpending := noted.unpending
          parted := by
            intro q awaited
            rcases List.mem_cons.mp awaited with rfl | before
            · change ((w.cancelHold.setConnected q false).printers q).transport.connected = false
              rw [World.setConnected, World.setTransport_printers, if_pos rfl]
            · exact noted.parted q before
          unheld := noted.unheld }
      · simpa using cancelled

theorem happen (resting : Resting env w past) (incident : Incident) :
    Resting env (w.happen incident).1 (past ++ (w.happen incident).2) := by
  cases incident with
  | abort =>
      simp only [World.happen, List.append_nil]
      exact resting.move ⟨rfl, id, rfl, fun _ => id, fun _ _ => id⟩
  | dropped p => exact (resting.move (w.unheld_setConnected p)).note (.peerDropped p)
  | notified p events =>
      simp only [World.happen, List.append_nil]
      exact resting.move (World.quiet_setListeners p _).unheld
  | holdExpires =>
      simp only [World.happen]
      split
      · next armed =>
          have isClosed : opened past = false := Bool.eq_false_of_not_eq_true fun isOpen =>
            Bool.false_ne_true ((resting.unheld isOpen).1.symm.trans armed)
          have expired : Resting env w (past ++ [.holdExpired w.session.pendingCmd]) :=
            resting.record trivial id
          apply expired.free
          rw [opened_concat]
          exact isClosed
      · simpa using resting
  | holdStarts =>
      simp only [World.happen]
      cases scheduled : w.bridge.holdScheduled with
      | zero => simpa using resting
      | succ count =>
          have isClosed : opened past = false := Bool.eq_false_of_not_eq_true fun isOpen => by
            have none := (resting.unheld isOpen).2
            omega
          have taken : Resting env (w.setBridge fun bridge =>
              { bridge with holdScheduled := count }) past :=
            resting.free isClosed
          exact taken.startHoldTask isClosed
  | holdEnds p =>
      simp only [World.happen]
      split
      · next awaited =>
          have down : w.isConnected p = false := by
            rw [World.isConnected, Transport.isConnected, resting.parted p awaited]
            rfl
          rw [down]
          simp only [Bool.false_eq_true, if_false, List.append_nil]
          apply resting.move
          refine ⟨rfl, id, rfl, List.erase_subset, ?_⟩
          intro q _
          simp only [World.hangUp, World.setBridge, World.setTransport_printers]
          split
          · exact fun up => Bool.noConfusion up
          · exact id
      · simpa using resting

theorem idleStable : IdleStable HoldsApart (Resting env) where
  awaken := fun w past answer resting apart =>
    @World.awaken_induction w HoldsApart (Resting env)
      (fun _ _ answer resting => resting.note (.tick answer))
      (fun _ _ incident resting _ => resting.happen incident)
      (fun _ _ _ resting => resting.move ⟨rfl, id, rfl, fun _ => id, fun _ _ => id⟩)
      answer past resting apart
  quiet := fun _ _ _ quiet resting => resting.move quiet.unheld
  event := fun _ _ _ wire resting _ => resting.note wire.aside

/-- The end of a session leaves the connection to the timer. -/
theorem finish (env : Env) : Keeps HoldsApart (Resting env) (Session.finish env) := by
  intro w past resting
  apply Ensures.read_bind
  apply Ensures.ite
  · intro _
    apply Ensures.modify_bind
    apply Ensures.emit_bind
    intro _
    have inactive : Resting env (w.setBridge fun bridge => { bridge with sessionActive := false })
        past := resting.move ⟨rfl, id, rfl, fun _ => id, fun _ _ => id⟩
    have quiet : HoldsIdle env past .sessionEnded := trivial
    have ended := inactive.record quiet fun isOpen => Bool.noConfusion isOpen
    have isClosed : opened (past ++ [.sessionEnded]) = false := opened_concat past .sessionEnded
    apply Ensures.ite
    · intro _
      apply Ensures.modify_bind
      apply Ensures.read_bind
      apply Ensures.ite
      · exact fun _ => Ensures.modify (ended.free isClosed)
      · exact fun _ => Ensures.pure (ended.free isClosed)
    · exact fun _ => Ensures.pure ended
  · exact fun _ => Ensures.pure resting

theorem accept (resting : Resting env w past) {command : Command}
    (apart : HoldsApart (commandStart w command)) :
    Busy env true (w.accept command) (past ++ [commandStart w command]) where
  idle := resting.idle.concat trivial
  pending := nofun
  unscheduled := by
    have none : w.bridge.holdScheduled = 0 := by simpa [HoldsApart, commandStart] using apart
    exact none
  parted := resting.parted
  disarmed := by
    rw [opened_concat]
    rintro (isOpen | none)
    · exact (resting.unheld isOpen).1
    · cases none

end Resting

theorem Busy.rest {env : Env} {w : World} {past : List TraceEvent} (busy : Busy env true w past) :
    Resting env (w.setSession fun session => { session with pendingCmd := none }) past where
  idle := busy.idle
  unpending := rfl
  parted := busy.parted
  unheld := fun isOpen => ⟨busy.disarmed (.inl isOpen), busy.unscheduled⟩

theorem hold_runs (env : Env) :
    RunStable env HoldsApart (Resting env) (fun _ => Busy env true) (Busy env true)
      (fun _ past => Throughout (HoldsIdle env) past) where
  idle := Resting.idleStable
  begins := Upholds.modify fun w past resting => by
    split
    · exact resting
    · exact ⟨resting.idle, rfl, resting.parted, resting.unheld⟩
  finishes := Resting.finish env
  accepted := fun _ _ _ resting apart => resting.accept apart
  handled := fun _ _ _ busy => (busy_handlers env true).handler (fun _ _ => Busy.idle)
    (fun address model _ => (busy.cmdOpen env address model).mono (fun _ _ _ => id)
      (fun _ _ _ => id) fun _ _ => Busy.idle)
    (fun _ => Busy.cmdClose env)
    (fun _ => Busy.cmdDisconnect env)
    (fun timeout _ => (busy_probes env true).cmdDiscover timeout) busy
  replied := fun _ _ _ _ busy _ => busy.record trivial rfl
  answers := (Busy.wire true 0).toIdleStable
  cleared := fun _ _ => Busy.rest
  resting := fun _ _ => Resting.idle
  finishing := fun _ _ => Busy.idle

/-- In a run where no hold expires during a command, no command starts between an expiry and its
disconnect, and no printer is dialed while such a disconnect awaits its client, a hold takes down
only connections that are idle, and every connect ends with a usable connection or a
`ConnectionError` unless a link is lost or a disconnect fails meanwhile, or the patterns of the
models, joined, are no regular expression and the scan raises. -/
theorem hold_drops_idle (env : Env) (w : World) (unpending : w.session.pendingCmd = none)
    (parted : w.Parted) (moves : List Session.Move) (script : List Tick)
    (apart : ∀ event ∈ (Session.runMoves env moves w script).trace, HoldsApart event) :
    Throughout (HoldsIdle env) (Session.runMoves env moves w script).trace :=
  (hold_runs env).always moves ⟨throughout_nil, unpending, parted, nofun⟩ apart

/-! ## A timer that outlives a close -/

/-- The timer expires and its disconnect ends between two commands. -/
def leftIdle : Run PyExc World Tick TraceEvent Unit :=
  Session.runMoves stripEnv
    [.begins, .command (.open none none), .command .close, .idle, .command (.open none none)]
    freshWorld
    [scanned, {}, {}, {}, {}, {}, { incidents := [.holdExpires, .holdStarts, .holdEnds 0] }, {}, {},
      {}, {}]

/-- The client goes on after its close, and the timer expires during that command. -/
def resumed : Run PyExc World Tick TraceEvent Unit :=
  Session.runMoves stripEnv
    [.begins, .command (.open none none), .command .close, .command .info] freshWorld
    [scanned, {}, {}, {}, {}, {}, { incidents := [.holdExpires, .holdStarts] }]

/-- The client opens again while the disconnect still awaits the client of the connection. -/
def reopenedAtOnce : Run PyExc World Tick TraceEvent Unit :=
  Session.runMoves stripEnv
    [.begins, .command (.open none none), .command .close, .idle, .command (.open none none)]
    freshWorld
    [scanned, {}, {}, {}, {}, {}, { incidents := [.holdExpires, .holdStarts] },
      { incidents := [.holdEnds 0] }, {}]

theorem hold_drops_idle_strip :
    stripEnv.registry.Joins ∧ Throughout (HoldsIdle stripEnv) leftIdle.trace := by
  have apart : ∀ event ∈ leftIdle.trace, HoldsApart event := by decide +kernel
  exact ⟨stripEnv_joins, hold_drops_idle stripEnv freshWorld rfl (fun _ => nofun) _ _ apart⟩

/-- The hold of the close takes the connection from the command that follows it; and its
disconnect takes the client of the next connection, whose connect then ends with an
`AttributeError`. -/
theorem hold_drops_busy :
    ¬Throughout (HoldsIdle stripEnv) resumed.trace ∧
      ¬Throughout (HoldsIdle stripEnv) reopenedAtOnce.trace := by
  constructor <;> decide +kernel

end Phomemo
