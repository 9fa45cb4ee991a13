import Phomemo.Async.History
import Phomemo.Upkeep.Establish

/-!
# Connections while a hold's disconnect is under way

A hold's disconnect clears the client it was started for, whichever client is there when it ends.
A connect that dials while no disconnect of that printer is in flight keeps its client to itself,
and ends with a usable connection or a `ConnectionError`.
-/

namespace Phomemo

open Async Coroutine

/-- What an event does to whether a client has the connection open. -/
def opens (opened : Bool) : TraceEvent → Bool
  | .openAnswered _ _ connected => opened || connected
  | .closeAnswered => false
  | .sessionEnded => false
  | _ => opened

/-- Whether an open was answered that no close and no end of the session followed. -/
def opened (past : List TraceEvent) : Bool :=
  past.foldl opens false

theorem opened_concat (past : List TraceEvent) (event : TraceEvent) :
    opened (past ++ [event]) = opens (opened past) event := by
  simp [opened]

/-- What an event does to whether the connect under way was spared. -/
def spares (spared : Bool) : TraceEvent → Bool
  | .connectCalled _ _ _ => true
  | .peerDropped _ => false
  | .writeFailed _ => false
  | .disconnectFailed _ => false
  | _ => spared

/-- Whether no link was lost and no disconnect failed since the last call of `connect`. -/
def spared (past : List TraceEvent) : Bool :=
  past.foldl spares false

theorem spared_concat (past : List TraceEvent) (event : TraceEvent) :
    spared (past ++ [event]) = spares (spared past) event := by
  simp [spared]

/-- A hold takes down only a connection that is idle, and a connect that was spared ends with a
usable connection or a `ConnectionError`, where the patterns of the models can be joined. -/
def HoldsIdle (env : Env) (before : List TraceEvent) : TraceEvent → Prop
  | .holdDropped pending => pending = none ∧ opened before = false
  | .connectReturned usable => spared before = true → usable = true
  | .connectRaised error => spared before = true → env.registry.Joins → error.IsConnectionError
  | _ => True

instance (env : Env) (before : List TraceEvent) : DecidablePred (HoldsIdle env before) :=
  fun event => by
    apply @TraceEvent.casesOn (fun event => Decidable (HoldsIdle env before event)) event <;>
      intros <;>
      first
      | exact .isTrue trivial
      | exact inferInstanceAs (Decidable (_ ∧ _))
      | exact inferInstanceAs (Decidable (_ → _))

/-- Holds expire and start their disconnect between commands, and no printer is dialed while such
a disconnect awaits its client. -/
def HoldsApart : TraceEvent → Prop
  | .holdExpired pending => pending = none
  | .commandBegan _ holdScheduled => holdScheduled = false
  | .dialed _ _ overlapped => overlapped = false
  | _ => True

instance : DecidablePred HoldsApart := fun event => by
  apply @TraceEvent.casesOn (fun event => Decidable (HoldsApart event)) event <;> intros <;>
    first | exact .isTrue trivial | exact inferInstanceAs (Decidable (_ = _))

/-- An event that says nothing about opens, holds or the ends of connects. -/
structure TraceEvent.Aside (event : TraceEvent) : Prop where
  idle : ∀ env before, HoldsIdle env before event
  opens : ∀ opened, opens opened event = opened
  spares : ∀ spared, spares spared event = true → spared = true

namespace TraceEvent

variable {event : TraceEvent}

theorem OfWire.aside (wire : event.OfWire) : event.Aside := by
  cases wire <;> exact ⟨fun _ _ => trivial, fun _ => rfl, fun _ => by simp [Phomemo.spares]⟩

theorem OfWaits.aside (waits : event.OfWaits) : event.Aside := by
  cases waits <;> exact ⟨fun _ _ => trivial, fun _ => rfl, fun _ => by simp [Phomemo.spares]⟩

theorem OfPage.aside (page : event.OfPage) : event.Aside := by
  cases page <;> exact ⟨fun _ _ => trivial, fun _ => rfl, fun _ => by simp [Phomemo.spares]⟩

end TraceEvent

/-- A printer whose client a hold's disconnect awaits is marked as not connected. -/
def World.Parted (w : World) : Prop :=
  ∀ p ∈ w.bridge.holdInFlight, (w.printers p).transport.connected = false

/-- A command runs: no hold is about to start its disconnect.  The timer of an earlier close may
still run, unless `timer` is false or a client has the connection open. -/
structure Busy (env : Env) (timer : Bool) (w : World) (past : List TraceEvent) : Prop where
  idle : Throughout (HoldsIdle env) past
  pending : w.session.pendingCmd ≠ none
  unscheduled : w.bridge.holdScheduled = 0
  parted : w.Parted
  disarmed : opened past = true ∨ timer = false → w.bridge.holdArmed = false

/-- No command runs: a hold may expire, unless a client has the connection open. -/
structure Resting (env : Env) (w : World) (past : List TraceEvent) : Prop where
  idle : Throughout (HoldsIdle env) past
  unpending : w.session.pendingCmd = none
  parted : w.Parted
  unheld : opened past = true → w.bridge.holdArmed = false ∧ w.bridge.holdScheduled = 0

/-- What leaves the holds alone: no link comes up that a hold's disconnect awaits. -/
structure World.Unheld (before after : World) : Prop where
  pendingCmd : after.session.pendingCmd = before.session.pendingCmd
  armed : after.bridge.holdArmed = true → before.bridge.holdArmed = true
  scheduled : after.bridge.holdScheduled = before.bridge.holdScheduled
  inFlight : after.bridge.holdInFlight ⊆ before.bridge.holdInFlight
  connected : ∀ p ∈ after.bridge.holdInFlight, (after.printers p).transport.connected = true →
    (before.printers p).transport.connected = true

namespace World

variable {w after : World}

theorem Unheld.parted (unheld : w.Unheld after) (parted : w.Parted) : after.Parted := by
  intro p awaited
  have before := parted p (unheld.inFlight awaited)
  exact Bool.eq_false_of_not_eq_true fun up =>
    Bool.false_ne_true (before.symm.trans (unheld.connected p awaited up))

theorem Unheld.disarmed (unheld : w.Unheld after) (disarmed : w.bridge.holdArmed = false) :
    after.bridge.holdArmed = false :=
  Bool.eq_false_of_not_eq_true fun armed =>
    Bool.false_ne_true (disarmed.symm.trans (unheld.armed armed))

theorem Quiet.unheld (quiet : w.Quiet after) : w.Unheld after := by
  refine ⟨quiet.pendingCmd, ?_, ?_, ?_, ?_⟩
  · rw [quiet.bridge]
    exact id
  · rw [quiet.bridge]
  · rw [quiet.bridge]
    exact fun _ => id
  · exact fun p _ => (quiet.connected p).symm.trans

theorem unheld_setPrinter (p : PrinterId) {change : Printer → Printer}
    (connected : p ∈ w.bridge.holdInFlight →
      (change (w.printers p)).transport.connected = true →
        (w.printers p).transport.connected = true) :
    w.Unheld (w.setPrinter p change) := by
  refine ⟨rfl, id, rfl, fun _ => id, ?_⟩
  intro q awaited
  rw [setPrinter_printers]
  split
  · subst q
    exact connected awaited
  · exact id

theorem unheld_setTransport (p : PrinterId) {change : Transport → Transport}
    (connected : p ∈ w.bridge.holdInFlight →
      (change (w.printers p).transport).connected = true →
        (w.printers p).transport.connected = true) :
    w.Unheld (w.setTransport p change) :=
  unheld_setPrinter p connected

theorem unheld_setConnected (w : World) (p : PrinterId) : w.Unheld (w.setConnected p false) :=
  unheld_setTransport p fun _ up => Bool.noConfusion up

theorem setConnected_client (w : World) (p q : PrinterId) (connected : Bool) :
    ((w.setConnected p connected).printers q).transport.client =
      (w.printers q).transport.client := by
  rw [setConnected, setTransport_printers]
  dsimp only
  split <;> rfl

end World

namespace Busy

variable {env : Env} {timer : Bool} {w after : World} {past : List TraceEvent}

theorem move (busy : Busy env timer w past) (unheld : w.Unheld after) :
    Busy env timer after past where
  idle := busy.idle
  pending := by
    rw [unheld.pendingCmd]
    exact busy.pending
  unscheduled := unheld.scheduled.trans busy.unscheduled
  parted := unheld.parted busy.parted
  disarmed := fun closed => unheld.disarmed (busy.disarmed closed)

/-- One more event that opens nothing. -/
theorem record {event : TraceEvent} (busy : Busy env timer w past) (idle : HoldsIdle env past event)
    (opens : opens (opened past) event = opened past) : Busy env timer w (past ++ [event]) where
  idle := busy.idle.concat idle
  pending := busy.pending
  unscheduled := busy.unscheduled
  parted := busy.parted
  disarmed := by
    rw [opened_concat, opens]
    exact busy.disarmed

theorem note {event : TraceEvent} (busy : Busy env timer w past) (aside : event.Aside) :
    Busy env timer w (past ++ [event]) :=
  busy.record (aside.idle env past) (aside.opens _)

/-- Once the timer is cancelled it does not run. -/
theorem cancel (busy : Busy env timer w past) : Busy env false w.cancelHold past where
  idle := busy.idle
  pending := busy.pending
  unscheduled := busy.unscheduled
  parted := busy.parted
  disarmed := fun _ => rfl

theorem loosen (busy : Busy env false w past) : Busy env timer w past :=
  { busy with disarmed := fun _ => busy.disarmed (.inr rfl) }

end Busy

/-- The client of a printer is there and no hold's disconnect awaits it; once linked, the
connection is up unless a link was lost. -/
structure Grips (env : Env) (timer linked : Bool) (p : PrinterId) (w : World)
    (past : List TraceEvent) : Prop extends Busy env timer w past where
  apart : p ∉ w.bridge.holdInFlight
  client : (w.printers p).transport.client.isSome = true
  up : linked = true → spared past = true → (w.printers p).transport.connected = true

namespace Grips

variable {env : Env} {timer linked : Bool} {p : PrinterId} {w after : World}
  {past : List TraceEvent}

theorem move (grips : Grips env timer linked p w past) (unheld : w.Unheld after)
    (client : (after.printers p).transport.client = (w.printers p).transport.client)
    (connected : (w.printers p).transport.connected = true →
      (after.printers p).transport.connected = true) : Grips env timer linked p after past where
  toBusy := grips.toBusy.move unheld
  apart := fun awaited => grips.apart (unheld.inFlight awaited)
  client := by
    rw [client]
    exact grips.client
  up := fun isLinked isSpared => connected (grips.up isLinked isSpared)

theorem note {event : TraceEvent} (grips : Grips env timer linked p w past) (aside : event.Aside) :
    Grips env timer linked p w (past ++ [event]) where
  toBusy := grips.toBusy.note aside
  apart := grips.apart
  client := grips.client
  up := fun isLinked isSpared =>
    grips.up isLinked (aside.spares _ ((spared_concat past event).symm.trans isSpared))

/-- A lost link, as an event says. -/
theorem lose {event : TraceEvent} (grips : Grips env timer linked p w past)
    (unheld : w.Unheld after)
    (client : (after.printers p).transport.client = (w.printers p).transport.client)
    (aside : event.Aside) (lost : ∀ before, spares before event = false) :
    Grips env timer linked p after (past ++ [event]) where
  toBusy := (grips.toBusy.move unheld).note aside
  apart := fun awaited => grips.apart (unheld.inFlight awaited)
  client := by
    rw [client]
    exact grips.client
  up := by
    intro _ isSpared
    rw [spared_concat, lost] at isSpared
    cases isSpared

theorem isConnected (grips : Grips env timer true p w past) (isSpared : spared past = true) :
    w.isConnected p = true := by
  rw [World.isConnected, Transport.isConnected, grips.up rfl isSpared, grips.client]
  rfl

end Grips

/-- What one incident does while a command runs: it takes at most a link down. -/
structure World.Stirs (w after : World) (events : List TraceEvent) : Prop where
  unheld : w.Unheld after
  client : ∀ p ∉ w.bridge.holdInFlight,
    (after.printers p).transport.client = (w.printers p).transport.client
  connected : events = [] ∧ (∀ p ∉ w.bridge.holdInFlight,
      (after.printers p).transport.connected = (w.printers p).transport.connected) ∨
    ∃ q, events = [.peerDropped q]

theorem World.Stirs.refl (w : World) : w.Stirs w [] :=
  ⟨⟨rfl, id, rfl, fun _ => id, fun _ _ => id⟩, fun _ _ => rfl, .inl ⟨rfl, fun _ _ => rfl⟩⟩

/-- While a command runs no hold starts its disconnect, and one that started takes nothing down
when it ends. -/
theorem Busy.stirs {env : Env} {timer : Bool} {w : World} {past : List TraceEvent}
    (busy : Busy env timer w past) {incident : Incident}
    (apart : ∀ event ∈ (w.happen incident).2, HoldsApart event) :
    w.Stirs (w.happen incident).1 (w.happen incident).2 := by
  cases incident with
  | abort =>
      exact ⟨⟨rfl, id, rfl, fun _ => id, fun _ _ => id⟩, fun _ _ => rfl,
        .inl ⟨rfl, fun _ _ => rfl⟩⟩
  | dropped p =>
      exact ⟨w.unheld_setConnected p, fun q _ => w.setConnected_client p q false,
        .inr ⟨p, rfl⟩⟩
  | notified p events =>
      have quiet := World.quiet_setListeners (w := w) p fun listeners => listeners.notify events
      exact ⟨quiet.unheld, fun q _ => quiet.client q, .inl ⟨rfl, fun q _ => quiet.connected q⟩⟩
  | holdExpires =>
      simp only [World.happen] at apart ⊢
      split
      · next armed =>
          rw [if_pos armed] at apart
          exact absurd (apart _ (List.mem_singleton_self _)) busy.pending
      · exact .refl w
  | holdStarts =>
      simp only [World.happen, busy.unscheduled]
      exact .refl w
  | holdEnds p =>
      simp only [World.happen]
      split
      · next awaited =>
          have down : w.isConnected p = false := by
            rw [World.isConnected, Transport.isConnected, busy.parted p awaited]
            rfl
          have other : ∀ q ∉ w.bridge.holdInFlight, q ≠ p := fun q free same =>
            free (same ▸ awaited)
          rw [down]
          refine ⟨⟨rfl, id, rfl, List.erase_subset, ?_⟩, ?_, .inl ⟨rfl, ?_⟩⟩
          · intro q _
            simp only [World.hangUp, World.setBridge, World.setTransport_printers]
            split
            · exact fun up => by cases up
            · exact id
          · intro q free
            simp only [World.hangUp, World.setBridge, World.setTransport_printers,
              if_neg (other q free)]
          · intro q free
            simp only [World.hangUp, World.setBridge, World.setTransport_printers,
              if_neg (other q free)]
      · exact .refl w

theorem TraceEvent.Aside.tick (answer : Tick) : (TraceEvent.tick answer).Aside :=
  ⟨fun _ _ => trivial, fun _ => rfl, fun _ => id⟩

theorem TraceEvent.Aside.peerDropped (p : PrinterId) : (TraceEvent.peerDropped p).Aside :=
  ⟨fun _ _ => trivial, fun _ => rfl, fun _ spared => by cases spared⟩

theorem TraceEvent.Aside.writeFailed (p : PrinterId) : (TraceEvent.writeFailed p).Aside :=
  ⟨fun _ _ => trivial, fun _ => rfl, fun _ spared => by cases spared⟩

theorem TraceEvent.Aside.wrote (p : PrinterId) (address : String) (data : Bytes) :
    (TraceEvent.wrote p address data).Aside :=
  ⟨fun _ _ => trivial, fun _ => rfl, fun _ => id⟩

namespace Busy

variable {env : Env} {timer : Bool} {w : World} {past : List TraceEvent}

theorem stir {after : World} {events : List TraceEvent} (busy : Busy env timer w past)
    (stirs : w.Stirs after events) : Busy env timer after (past ++ events) := by
  rcases stirs.connected with ⟨rfl, -⟩ | ⟨q, rfl⟩
  · rw [List.append_nil]
    exact busy.move stirs.unheld
  · exact (busy.move stirs.unheld).note (.peerDropped q)

theorem wire (timer : Bool) (p : PrinterId) : WireStable HoldsApart (Busy env timer) p where
  awaken := fun w past answer busy apart =>
    @World.awaken_induction w HoldsApart (Busy env timer)
      (fun _ _ answer busy => busy.note (.tick answer))
      (fun _ _ _ busy apart => busy.stir (busy.stirs apart))
      (fun _ _ _ busy => busy.move ⟨rfl, id, rfl, fun _ => id, fun _ _ => id⟩) answer past busy
      apart
  quiet := fun _ _ _ quiet busy => busy.move quiet.unheld
  event := fun _ _ _ wire busy _ => busy.note wire.aside
  wrote := fun _ _ client data busy _ _ _ => busy.note (.wrote p client.address data)
  lost := fun _ _ busy _ =>
    (busy.move (World.unheld_setConnected _ p)).note (.writeFailed p)

end Busy

namespace Grips

variable {env : Env} {timer linked : Bool} {p : PrinterId} {w : World} {past : List TraceEvent}

theorem stir {after : World} {events : List TraceEvent} (grips : Grips env timer linked p w past)
    (stirs : w.Stirs after events) : Grips env timer linked p after (past ++ events) := by
  have client := stirs.client p grips.apart
  rcases stirs.connected with ⟨rfl, connected⟩ | ⟨q, rfl⟩
  · rw [List.append_nil]
    exact grips.move stirs.unheld client (connected p grips.apart).trans
  · exact grips.lose stirs.unheld client (.peerDropped q) fun _ => rfl

theorem awaken (grips : Grips env timer linked p w past) {answer : Tick}
    (apart : ∀ event ∈ w.awakening answer, HoldsApart event) :
    Grips env timer linked p (w.awaken answer) (past ++ w.awakening answer) :=
  World.awaken_induction (fun _ _ answer grips => grips.note (.tick answer))
    (fun _ _ _ grips apart => grips.stir (grips.stirs apart))
    (fun _ _ _ grips => grips.move ⟨rfl, id, rfl, fun _ => id, fun _ _ => id⟩ rfl id) grips apart

theorem quiet {after : World} (grips : Grips env timer linked p w past) (quiet : w.Quiet after) :
    Grips env timer linked p after past :=
  grips.move quiet.unheld (quiet.client p) (quiet.connected p).trans

/-- A link goes down with a failed write. -/
theorem lost (grips : Grips env timer linked p w past) (q : PrinterId) :
    Grips env timer linked p (w.setConnected q false) (past ++ [.writeFailed q]) :=
  grips.lose (w.unheld_setConnected q) (w.setConnected_client q p false) (.writeFailed q)
    fun _ => rfl

end Grips

/-- The printer the bridge holds is linked. -/
def Linked (env : Env) (w : World) (past : List TraceEvent) : Prop :=
  ∃ p, w.bridge.printer = some p ∧ Grips env false true p w past

namespace Linked

variable {env : Env} {w : World} {past : List TraceEvent}

theorem busy (linked : Linked env w past) : Busy env false w past := by
  obtain ⟨p, -, grips⟩ := linked
  exact grips.toBusy

theorem bridgeConnected (linked : Linked env w past) (isSpared : spared past = true) :
    w.bridgeConnected = true := by
  obtain ⟨p, held, grips⟩ := linked
  rw [World.bridgeConnected, held]
  exact grips.isConnected isSpared

theorem wire (q : PrinterId) : WireStable HoldsApart (Linked env) q where
  awaken := by
    rintro w past answer ⟨p, held, grips⟩ apart
    exact ⟨p, (World.awaited_awaken answer).printer.trans held, grips.awaken apart⟩
  quiet := by
    rintro w after past quiet ⟨p, held, grips⟩
    exact ⟨p, quiet.printer.trans held, grips.quiet quiet⟩
  event := by
    rintro w past event wire ⟨p, held, grips⟩ -
    exact ⟨p, held, grips.note wire.aside⟩
  wrote := by
    rintro w past client data ⟨p, held, grips⟩ - - -
    exact ⟨p, held, grips.note (.wrote q client.address data)⟩
  lost := by
    rintro w past ⟨p, held, grips⟩ -
    exact ⟨p, held, grips.lost q⟩

end Linked

/-! ## Connecting a printer -/

/-- The ends of connecting printer `p`; `down` tells that its link was down. -/
abbrev Links (env : Env) (timer : Bool) (down : Prop) (p : PrinterId) :
    Post PyExc World TraceEvent Unit where
  returned := fun _ => Grips env timer true p
  raised := fun error w past =>
    Busy env timer w past ∧ (down → spared past = true → error.IsConnectionError)
  waiting := Busy env timer

namespace Busy

variable {env : Env} {timer : Bool} {down : Prop} {p : PrinterId} {w : World}
  {past : List TraceEvent}

theorem hangUp (busy : Busy env timer w past) (p : PrinterId) :
    Busy env timer (w.hangUp p) past ∧ (w.hangUp p).isConnected p = false := by
  constructor
  · exact busy.move (World.unheld_setTransport p fun _ up => Bool.noConfusion up)
  · simp [World.isConnected, World.hangUp, World.setTransport_printers, Transport.isConnected]

theorem disconnect (busy : Busy env timer w past) (p : PrinterId) :
    Ensures HoldsApart (BleTransport.disconnect p)
      ⟨fun _ w past => Busy env timer w past ∧ w.isConnected p = false,
        fun _ w past => Busy env timer w past ∧ spared past = false, Busy env timer⟩ w past := by
  apply Ensures.read_bind
  apply Ensures.ite
  · intro _
    apply Ensures.modify_bind
    apply Upholds.seq (wire timer p).tick (busy.move (w.unheld_setConnected p))
    · intro answer w past busy
      have gone := busy.hangUp p
      apply Ensures.modify_bind
      cases answer.bleakError with
      | none => exact Ensures.pure gone
      | some text =>
          apply Ensures.emit_bind
          intro _
          apply Ensures.raise
          refine ⟨gone.1.note (TraceEvent.OfWire.disconnectFailed p).aside, ?_⟩
          exact spared_concat past (.disconnectFailed p)
    · exact fun _ _ _ _ failed => absurd failed id
    · exact fun _ _ => id
  · intro absent
    apply Ensures.pure
    refine ⟨busy, ?_⟩
    rw [World.isConnected, Transport.isConnected, Bool.eq_false_of_not_eq_true absent,
      Bool.and_false]

end Busy

namespace Grips

variable {env : Env} {timer : Bool} {p : PrinterId} {w : World} {past : List TraceEvent}

/-- The connection comes up. -/
theorem raise (grips : Grips env timer false p w past) :
    Grips env timer true p (w.setConnected p true) past where
  toBusy := grips.toBusy.move (World.unheld_setTransport p fun awaited =>
    absurd awaited grips.apart)
  apart := grips.apart
  client := by
    rw [World.setConnected_client]
    exact grips.client
  up := by
    intro _ _
    rw [World.setConnected, World.setTransport_printers, if_pos rfl]

theorem negotiate (p : PrinterId) :
    Upholds HoldsApart (Grips env timer true p) (fun _ => False) (BleTransport.negotiate p) := by
  intro w past grips
  apply Ensures.read_bind
  apply Ensures.ite
  · intro _
    apply ensures_tick_bind grips
    intro answer apart
    have awake := grips.awaken apart
    cases answer.mtu with
    | none => exact Ensures.pure awake
    | some mtu =>
        apply Ensures.ite
        · intro _
          apply Ensures.modify
          apply awake.move (World.unheld_setTransport p fun _ => id)
          · rw [World.setTransport_printers, if_pos rfl]
          · rw [World.setTransport_printers, if_pos rfl]
            exact id
        · exact fun _ => Ensures.pure awake
  · exact fun _ => Ensures.pure grips

theorem subscribe (device : Device) (grips : Grips env timer true p w past) :
    Ensures HoldsApart (BleTransport.subscribe p device) (Links env timer True p) w past := by
  apply Ensures.read_bind
  apply Ensures.ite
  · intro _
    apply ensures_tick_bind grips.toBusy
    intro answer apart
    have awake := grips.awaken apart
    cases answer.bleakError with
    | none => exact Ensures.pure awake
    | some text =>
        apply Ensures.seq (awake.toBusy.disconnect p)
        · exact fun _ _ _ gone => Ensures.raise ⟨gone.1, fun _ _ => trivial⟩
        · exact fun _ _ _ failed => ⟨failed.1, fun _ isSpared =>
            absurd (failed.2.symm.trans isSpared) Bool.false_ne_true⟩
        · exact fun _ _ => id
  · exact fun absent => absurd grips.client absent

end Grips

namespace Busy

variable {env : Env} {timer : Bool} {down : Prop} {p : PrinterId} {w : World}
  {past : List TraceEvent}

/-- A printer that is dialed while no hold's disconnect awaits it has its client to itself. -/
theorem dial (busy : Busy env timer w past) (device : Device) :
    Ensures HoldsApart (BleTransport.dial p device)
      ⟨fun _ => Grips env timer false p, fun _ _ _ => False, Busy env timer⟩ w past := by
  apply Ensures.read_bind
  apply Ensures.modify_bind
  apply Ensures.emit
  intro apart
  have free : p ∉ w.bridge.holdInFlight := by simpa [HoldsApart] using apart
  have client : w.Unheld (w.setClient p (some ⟨w.nextClient, device.address⟩)) :=
    World.unheld_setTransport p fun _ => id
  have dialed : Busy env timer
      { w.setClient p (some ⟨w.nextClient, device.address⟩) with
        nextClient := w.nextClient + 1 } past :=
    (busy.move client).move ⟨rfl, id, rfl, fun _ => id, fun _ _ => id⟩
  exact {
    toBusy := dialed.note ⟨fun _ _ => trivial, fun _ => rfl, fun _ => id⟩
    apart := free
    client := by simp [World.setClient, World.setTransport_printers]
    up := fun up => by cases up }

theorem connectDevice (busy : Busy env timer w past) (offline : down → w.isConnected p = false)
    (device : Device) :
    Ensures HoldsApart (BleTransport.connect p device) (Links env timer down p) w past := by
  apply Ensures.read_bind
  apply Ensures.ite
  · intro online
    exact Ensures.raise ⟨busy, fun isDown =>
      absurd ((offline isDown).symm.trans online) Bool.false_ne_true⟩
  · intro _
    apply Ensures.seq (busy.dial device)
    · intro _ w past grips
      apply ensures_tick_bind grips.toBusy
      intro answer apart
      have awake := grips.awaken apart
      cases answer.bleakError with
      | some text =>
          apply Ensures.modify_bind
          apply Ensures.raise
          exact ⟨awake.toBusy.move (World.unheld_setTransport p fun _ => id), fun _ _ => trivial⟩
      | none =>
          apply Ensures.modify_bind
          apply Upholds.seq (Grips.negotiate p) awake.raise
          · intro _ w past grips
            apply (grips.subscribe device).mono
            · exact fun _ _ _ => id
            · exact fun _ _ _ failed => ⟨failed.1, fun _ => failed.2 trivial⟩
            · exact fun _ _ => id
          · exact fun _ _ _ _ => False.elim
          · exact fun _ _ => Grips.toBusy
    · exact fun _ _ _ => False.elim
    · exact fun _ _ => id

/-- A busy state in which a printer's link is down, if `down` says so. -/
abbrev Offline (env : Env) (timer : Bool) (down : Prop) (p : PrinterId) (w : World)
    (past : List TraceEvent) : Prop :=
  Busy env timer w past ∧ (down → w.isConnected p = false)

/-- Awaits bring no link up. -/
theorem offline_idle (env : Env) (timer : Bool) (down : Prop) (p : PrinterId) :
    IdleStable HoldsApart (Offline env timer down p) where
  awaken := fun w past answer offline apart =>
    ⟨(wire timer p).awaken w past answer offline.1 apart, fun isDown =>
      Bool.eq_false_of_not_eq_true fun online => Bool.false_ne_true
        ((offline.2 isDown).symm.trans ((World.awaited_awaken answer).isConnected online))⟩
  quiet := fun w after past quiet offline =>
    ⟨offline.1.move quiet.unheld, fun isDown => by
      rw [World.isConnected, Transport.isConnected, quiet.connected p, quiet.client p]
      exact offline.2 isDown⟩
  event := fun w past event wire offline _ => ⟨offline.1.note wire.aside, offline.2⟩

/-- The printer object learns about its device. -/
theorem Offline.learn {change : Printer → Printer} (offline : Offline env timer down p w past)
    (transport : ∀ printer, (change printer).transport = printer.transport) :
    Offline env timer down p (w.setPrinter p change) past := by
  refine ⟨offline.1.move (World.unheld_setPrinter p fun _ => by rw [transport]; exact id), ?_⟩
  intro isDown
  rw [World.isConnected, World.setPrinter_printers, if_pos rfl, transport]
  exact offline.2 isDown

theorem connect (env : Env) (offline : Offline env timer down p w past) :
    Ensures HoldsApart (Printer.connect env p) (Links env timer down p) w past := by
  apply ensures_connect (offline_idle env timer down p)
  · exact fun _ _ _ same offline => offline.learn fun printer => (same printer).1
  · exact fun _ _ _ _ offline _ =>
      ⟨offline.1.note ⟨fun _ _ => trivial, fun _ => rfl, fun _ => id⟩, offline.2⟩
  · exact fun _ _ _ offline => ⟨offline.1, fun _ _ => trivial⟩
  · exact fun _ _ => And.left
  · exact fun _ _ device offline => offline.1.connectDevice offline.2 device
  · exact offline

/-- Work on any printer leaves the holds alone. -/
theorem device (env : Env) (timer : Bool) (p : PrinterId) :
    DeviceStable env HoldsApart (Busy env timer) p where
  toWireStable := wire timer p
  disconnect := fun _ _ busy => (busy.disconnect p).mono (fun _ _ _ => And.left)
    (fun _ _ _ failed => ⟨failed.1, trivial⟩) fun _ _ => id
  connect := by
    intro w past busy
    have offline : Offline env timer False p w past := ⟨busy, False.elim⟩
    exact (connect env offline).mono (fun _ _ _ => Grips.toBusy)
      (fun _ _ _ failed => ⟨failed.1, trivial⟩) fun _ _ => id

end Busy

/-! ## Connecting the bridge -/

/-- Connecting a printer leaves the bridge with the one it has. -/
theorem holdsPrinter_link (held : Option PrinterId) (p : PrinterId) :
    LinkStable HoldsApart (fun w _ => w.bridge.printer = held) p fun _ _ => True where
  awaken := fun _ _ answer same _ => (World.awaited_awaken answer).printer.trans same
  quiet := fun _ _ _ quiet same => quiet.printer.trans same
  event := fun _ _ _ _ same _ => same
  wrote := fun _ _ _ _ same _ _ _ => same
  lost := fun _ _ same _ => same
  downed := fun _ _ same => same
  hungUp := fun _ _ same => same
  unset := fun _ _ same => same
  dialed := fun _ _ _ same _ _ => same
  up := fun _ _ same => same
  negotiated := fun _ _ _ _ same => same
  named := fun _ _ _ same _ => same
  learned := fun _ => trivial
  sought := fun _ _ _ => trivial
  handed := fun _ => trivial
  resolved := fun _ _ _ _ same _ => same

/-- The ends of bringing the bridge's connection up. -/
abbrev Joins (env : Env) : Post PyExc World TraceEvent Unit where
  returned := fun _ => Linked env
  raised := fun error w past =>
    Busy env false w past ∧ (spared past = true → error.IsConnectionError)
  waiting := Busy env false

namespace Busy

variable {env : Env} {p : PrinterId} {w : World} {past : List TraceEvent}

/-- The bridge's printer, which is not connected, is connected. -/
theorem join (env : Env) (busy : Busy env false w past) (held : w.bridge.printer = some p)
    (down : w.isConnected p = false) :
    Ensures HoldsApart (Printer.connect env p) (Joins env) w past := by
  have offline : Offline env false True p w past := ⟨busy, fun _ => down⟩
  have stays := (holdsPrinter_link (some p) p).connect env w past held
  apply ((connect env offline).and stays).mono
  · exact fun _ w past both => ⟨p, both.2, both.1⟩
  · exact fun _ _ _ both => ⟨both.1.1, both.1.2 trivial⟩
  · exact fun _ _ => And.left

end Busy

namespace Linked

variable {env : Env} {p : PrinterId} {w : World} {past : List TraceEvent}

theorem useProfile (linked : Linked env w past) {profile : PrinterProfile}
    (same : profile.bleSettings = (w.printers p).profile.bleSettings) :
    Ensures HoldsApart (Printer.useProfile p profile) (Joins env) w past := by
  apply Ensures.read_bind
  apply Ensures.ite
  · exact fun other => absurd same other.2
  · intro _
    apply Ensures.modify_bind
    apply Ensures.emit
    intro _
    obtain ⟨q, held, grips⟩ := linked
    have used : ∀ r, ((w.useProfile p profile).printers r).transport.client =
          (w.printers r).transport.client ∧
        ((w.useProfile p profile).printers r).transport.connected =
          (w.printers r).transport.connected := by
      intro r
      rw [World.useProfile, World.setPrinter_printers]
      split
      · subst r
        exact ⟨rfl, rfl⟩
      · exact ⟨rfl, rfl⟩
    have moved : Grips env false true q (w.useProfile p profile) past :=
      grips.move (World.unheld_setPrinter p fun _ => id) (used q).1 (used q).2.trans
    exact ⟨q, held, moved.note ⟨fun _ _ => trivial, fun _ => rfl, fun _ => id⟩⟩

/-- A printer object put in place of another is connected anew. -/
theorem replacePrinter (env : Env) (linked : Linked env w past) (p : PrinterId)
    (profile : PrinterProfile) :
    Ensures HoldsApart (do
        Printer.disconnect p
        let w ← Coroutine.read
        let q ← Bridge.factory profile ((w.printers p).addressText.map .text)
        Coroutine.modify fun w => w.setBridge fun bridge => { bridge with printer := some q }
        Coroutine.emit (.replacedPrinter p q)
        Printer.connect env q) (Joins env) w past := by
  apply Ensures.seq (linked.busy.disconnect p)
  · intro _ w past gone
    apply Ensures.read_bind
    apply Ensures.bind
    apply Ensures.read_bind
    apply Ensures.modify_bind
    apply Ensures.pure
    apply Ensures.modify_bind
    apply Ensures.emit_bind
    intro _
    have anew : Busy env false
        (w.replace profile ((w.printers p).addressText.map .text)) past := by
      apply gone.1.move
      refine ⟨rfl, id, rfl, fun _ => id, ?_⟩
      intro r _
      rw [World.replace_printers]
      by_cases same : r = w.nextPrinter
      · rw [same, World.withPrinter_new]
        exact fun up => Bool.noConfusion up
      · rw [World.withPrinter_other same]
        exact id
    have noted : Busy env false (w.replace profile ((w.printers p).addressText.map .text))
        (past ++ [.replacedPrinter p w.nextPrinter]) :=
      anew.note ⟨fun _ _ => trivial, fun _ => rfl, fun _ => id⟩
    apply noted.join env rfl
    rw [World.isConnected, World.replace_printers, World.withPrinter_new]
    rfl
  · exact fun _ _ _ failed => ⟨failed.1, fun isSpared =>
      absurd (failed.2.symm.trans isSpared) Bool.false_ne_true⟩
  · exact fun _ _ => id

theorem applySerial (env : Env) (linked : Linked env w past) (p : PrinterId) (name : Option String)
    (serial : String) :
    Ensures HoldsApart (Bridge.applySerial env p name serial) (Joins env) w past := by
  have notes : ∀ address values,
      Upholds HoldsApart (Linked env) (fun _ => False) (Bridge.remember address values) :=
    fun address values => (wire p).remember address values
  apply Ensures.read_bind
  apply Upholds.seq (notes _ _) linked
  · intro _ w past linked
    cases env.registry.profileForName name (some serial) with
    | none => exact Ensures.pure linked
    | some profile =>
        apply Ensures.read_bind
        apply Ensures.ite
        · exact fun _ => Ensures.pure linked
        · intro _
          apply Ensures.ite
          · exact fun same => linked.useProfile same
          · exact fun _ => linked.replacePrinter env p profile
  · exact fun _ _ _ _ => False.elim
  · exact fun _ _ => busy

theorem refineModel (env : Env) (linked : Linked env w past) (p : PrinterId) :
    Ensures HoldsApart (Bridge.refineModel env p) (Joins env) w past := by
  have asks : Upholds HoldsApart (Linked env) (fun _ => False) (Bridge.querySerial p) :=
    (wire p).bridgeSerial
  apply Ensures.read_bind
  apply Ensures.ite
  · intro _
    apply Upholds.seq asks linked
    · rintro (_ | serial) w past linked
      · exact Ensures.pure linked
      · exact linked.applySerial env p _ serial
    · exact fun _ _ _ _ => False.elim
    · exact fun _ _ => busy
  · exact fun _ => Ensures.pure linked

end Linked

namespace Busy

variable {env : Env} {p : PrinterId} {w : World} {past : List TraceEvent}

theorem connectHeld (env : Env) (busy : Busy env false w past) (held : w.bridge.printer = some p)
    (down : w.isConnected p = false) :
    Ensures HoldsApart (Bridge.connectHeld env) (Joins env) w past := by
  apply Ensures.read_bind
  rw [held]
  apply Ensures.seq (busy.join env held down)
  · intro _ w past linked
    apply Ensures.seq (linked.refineModel env p)
    · intro _ w past linked
      apply Ensures.read_bind
      have sets : Upholds HoldsApart (Linked env) (fun _ => False)
          (Bridge.applyAutoOff env (w.bridge.printer.getD p)) :=
        (Linked.wire _).applyAutoOff env
      apply sets.ensures linked
      · exact fun _ _ _ => id
      · exact fun _ _ _ _ => False.elim
      · exact fun _ _ => Linked.busy
    · exact fun _ _ _ => id
    · exact fun _ _ => id
  · exact fun _ _ _ => id
  · exact fun _ _ => id

/-- The bridge takes a new printer object, which is not connected. -/
theorem adopt (busy : Busy env false w past) (profile : PrinterProfile)
    (address : Option PrinterAddress) (explicit : Bool) :
    Busy env false ((w.withPrinter profile address).adopt w.nextPrinter explicit) past := by
  refine busy.move ⟨rfl, id, rfl, fun _ => id, ?_⟩
  intro r _
  rw [World.adopt_printers]
  by_cases same : r = w.nextPrinter
  · rw [same, World.withPrinter_new]
    exact fun up => Bool.noConfusion up
  · rw [World.withPrinter_other same]
    exact id

/-- The ends of a connect before they are recorded. -/
abbrev Establishes (env : Env) : Post PyExc World TraceEvent Unit where
  returned := fun _ w past =>
    Busy env false w past ∧ (spared past = true → w.bridgeConnected = true)
  raised := fun error w past => Busy env false w past ∧
    (spared past = true → env.registry.Joins → error.IsConnectionError)
  waiting := Busy env false

/-- The steps of a connect, each from a busy state without a timer. -/
theorem establishes (env : Env) :
    EstablishStable env HoldsApart (Busy env false) (Establishes env) where
  idle := (wire false 0).toIdleStable
  cancelHold := fun _ _ busy => busy.cancel
  disconnect := by
    intro p w past busy _
    apply (busy.disconnect p).mono
    · exact fun _ _ _ => And.left
    · exact fun _ _ _ failed => ⟨failed.1, fun isSpared =>
        absurd (failed.2.symm.trans isSpared) Bool.false_ne_true⟩
    · exact fun _ _ => id
  dropped := fun _ _ busy => busy.move ⟨rfl, id, rfl, fun _ => id, fun _ _ => id⟩
  looked := fun _ _ _ _ busy => busy.note ⟨fun _ _ => trivial, fun _ => rfl, fun _ => id⟩
  adopted := fun _ _ profile address explicit _ busy => busy.adopt profile address explicit
  refused := by
    rintro w past _ (text | malformed) busy
    · exact ⟨busy, fun _ _ => trivial⟩
    · exact ⟨busy, fun _ joined => absurd malformed (joined.not_error _)⟩
  online := fun _ _ busy online => ⟨busy, fun _ => online⟩
  waiting := fun _ _ => id
  connects := by
    intro p w past busy held down
    apply (busy.connectHeld env held down).mono
    · exact fun _ _ _ linked => ⟨linked.busy, linked.bridgeConnected⟩
    · exact fun _ _ _ failed => ⟨failed.1, fun isSpared _ => failed.2 isSpared⟩
    · exact fun _ _ => id

/-- A connect cancels the timer, and ends with a usable connection or a `ConnectionError`, unless
a link was lost or a disconnect failed. -/
theorem bridgeConnect (env : Env) {timer : Bool}
    (busy : Busy env timer w past) (address model : Option String) :
    Ensures HoldsApart (Bridge.connect env address model)
      ⟨fun _ => Busy env false, fun _ => Busy env false, Busy env timer⟩ w past := by
  have called : Busy env timer w
      (past ++ [.connectCalled address model (Bridge.currentTarget w)]) :=
    busy.record trivial rfl
  apply Ensures.read_bind
  apply Ensures.emit_bind
  intro _
  apply Ensures.bind
  apply Ensures.handle
  apply ((establishes env).establish called.cancel address model).mono
  · rintro _ w past ⟨busy, usable⟩
    apply Ensures.read_bind
    apply Ensures.emit
    exact fun _ => busy.record usable rfl
  · rintro error w past ⟨busy, kind⟩
    apply Ensures.emit_bind
    intro _
    apply Ensures.raise
    exact busy.record kind rfl
  · exact fun _ _ => loosen

end Busy

end Phomemo
