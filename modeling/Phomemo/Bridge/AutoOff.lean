import Phomemo.Bridge.Unattended
import Phomemo.Queries
import Phomemo.Upkeep.Establish

/-!
# The auto-off timer of a connection

Each connection the bridge makes for its printer is asked for the auto-off timer, which is written
unless the printer reports the configured one.  A printer that is reconnected on its own, without
the bridge, keeps the timer it has.
-/

namespace Phomemo

open Async Coroutine

namespace AutoOff

/-! ## Timers of connections -/

/-- Nothing of these events dials the printer. -/
def Undialed (p : PrinterId) (events : List TraceEvent) : Prop :=
  ∀ address overlapped, .dialed p address overlapped ∉ events

/-- Nothing of these events is written to the printer. -/
def Unwritten (p : PrinterId) (events : List TraceEvent) : Prop :=
  ∀ address data, .wrote p address data ∉ events

/-- Before anything else is written to the printer, it reports this timer. -/
def Reported (minutes : Int) (p : PrinterId) (events : List TraceEvent) : Prop :=
  ∃ waited later answer event, ∃ value : Nat, events = waited ++ later ∧ Unwritten p waited ∧
    .tick answer ∈ waited ∧ event ∈ answer.arrivals p ∧ event.data = .timer value ∧
    value * 5 = minutes

/-- The printer is reset, then the timer written if it fits a write of the connection. -/
def Attempted (minutes chunk : Int) (p : PrinterId) (events : List TraceEvent) : Prop :=
  ∃ waited address setting command, events = waited ++ .wrote p address encodeInit :: setting ∧
    encodeAutoOffTimer (minutes / 5) = .ok command ∧
    (command.length ≤ chunk → ∃ address, .wrote p address command ∈ setting)

/-- The connection dialed last is asked for its timer, if the query fits a write, and it is
written unless it is reported. -/
def Timed (minutes chunk : Int) (p : PrinterId) (past : List TraceEvent) : Prop :=
  ∃ before address overlapped since, past = before ++ .dialed p address overlapped :: since ∧
    Undialed p since ∧
    (QueryCommand.deviceTimer.bytes.length ≤ chunk → ∃ asking address answering,
      since = asking ++ .wrote p address QueryCommand.deviceTimer.bytes :: answering ∧
      (Reported minutes p answering ∨ Attempted minutes chunk p answering))

/-- What an event does to how many connects of the bridge are under way. -/
def connects (count : Nat) : TraceEvent → Nat
  | .connectCalled _ _ _ => count + 1
  | .connectReturned _ => count - 1
  | .connectRaised _ => count - 1
  | _ => count

/-- How many connects of the bridge are under way. -/
def connecting (past : List TraceEvent) : Nat :=
  past.foldl connects 0

theorem connecting_concat (past : List TraceEvent) (event : TraceEvent) :
    connecting (past ++ [event]) = connects (connecting past) event := by
  simp [connecting]

/-- What the bridge writes to its printer, other than while it connects, goes over a connection
whose timer is settled. -/
def TimerFirst (minutes : Int) (w : World) (past : List TraceEvent) : Prop :=
  ∀ before p address data, past = before ++ [.wrote p address data] →
    w.bridge.printer = some p → connecting before = 0 →
    Timed minutes (w.printers p).transport.effectiveChunkBytes p before

/-- A printer is dialed by a connect of the bridge, or is one that `discover` asks for its
serial. -/
def LinkedByBridge (before : List TraceEvent) : TraceEvent → Prop
  | .dialed _ _ _ => 0 < connecting before ∨ handling before = some .discover
  | _ => True

instance (before : List TraceEvent) : DecidablePred (LinkedByBridge before) := fun event => by
  apply @TraceEvent.casesOn (fun event => Decidable (LinkedByBridge before event)) event <;>
    intros <;>
    first | exact .isTrue trivial | exact inferInstanceAs (Decidable (_ ∨ _))

/-! ## Histories that go on -/

/-- An event that dials nothing, and tells nothing about commands and connects. -/
structure Still (event : TraceEvent) : Prop where
  undialed : ∀ p address overlapped, event ≠ .dialed p address overlapped
  connects : ∀ count, connects count event = count
  handles : ∀ handled, handles handled event = handled

/-- Whether an event is none of these. -/
def isStill : TraceEvent → Bool
  | .dialed _ _ _ | .connectCalled _ _ _ | .connectReturned _ | .connectRaised _ => false
  | .commandBegan _ _ | .replied _ _ => false
  | _ => true

theorem still_of_isStill {event : TraceEvent} (still : isStill event = true) : Still event where
  undialed := by
    rintro p address overlapped rfl
    cases still
  connects := by
    intro count
    cases event <;> first | rfl | cases still
  handles := by
    intro handled
    cases event <;> first | rfl | cases still

theorem still_await {event : TraceEvent} (await : event.OfAwait) : Still event := by
  cases await <;> exact still_of_isStill rfl

theorem still_wire {event : TraceEvent} (wire : event.OfWire) : Still event := by
  cases wire <;> exact still_of_isStill rfl

theorem still_waits {event : TraceEvent} (waits : event.OfWaits) : Still event := by
  cases waits <;> exact still_of_isStill rfl

theorem still_page {event : TraceEvent} (page : event.OfPage) : Still event := by
  cases page <;> exact still_of_isStill rfl

/-- None of the events on the wire, of the waits or of a page is a write. -/
theorem silent_wire {event : TraceEvent} (wire : event.OfWire) (p : PrinterId) (address : String)
    (data : Bytes) : event ≠ .wrote p address data := by
  rintro rfl
  cases wire

theorem silent_waits {event : TraceEvent} (waits : event.OfWaits) (p : PrinterId)
    (address : String) (data : Bytes) : event ≠ .wrote p address data := by
  rintro rfl
  cases waits

theorem silent_page {event : TraceEvent} (page : event.OfPage) (p : PrinterId) (address : String)
    (data : Bytes) : event ≠ .wrote p address data := by
  rintro rfl
  cases page

theorem connecting_append (past : List TraceEvent) {later : List TraceEvent}
    (still : ∀ event ∈ later, Still event) : connecting (past ++ later) = connecting past := by
  induction later generalizing past with
  | nil => rw [List.append_nil]
  | cons event later ih =>
      rw [List.append_cons, ih _ fun other member => still other (List.mem_cons_of_mem _ member),
        connecting_concat, (still event List.mem_cons_self).connects]

theorem handling_append (past : List TraceEvent) {later : List TraceEvent}
    (still : ∀ event ∈ later, Still event) : handling (past ++ later) = handling past := by
  induction later generalizing past with
  | nil => rw [List.append_nil]
  | cons event later ih =>
      rw [List.append_cons, ih _ fun other member => still other (List.mem_cons_of_mem _ member),
        handling_concat, (still event List.mem_cons_self).handles]

section Histories

variable {minutes chunk : Int} {p : PrinterId} {past later events : List TraceEvent}

theorem undialed_nil : Undialed p [] := fun _ _ => List.not_mem_nil

theorem undialed_still (still : ∀ event ∈ later, Still event) : Undialed p later :=
  fun address overlapped member => (still _ member).undialed p address overlapped rfl

theorem Undialed.append (undialed : Undialed p past) (more : Undialed p later) :
    Undialed p (past ++ later) := by
  intro address overlapped member
  rcases List.mem_append.mp member with before | after
  · exact undialed address overlapped before
  · exact more address overlapped after

theorem Unwritten.append (unwritten : Unwritten p past) (more : Unwritten p later) :
    Unwritten p (past ++ later) := by
  intro address data member
  rcases List.mem_append.mp member with before | after
  · exact unwritten address data before
  · exact more address data after

theorem unwritten_await (awaited : ∀ event ∈ later, event.OfAwait) : Unwritten p later :=
  fun _ _ member => nomatch awaited _ member

theorem Reported.append (reported : Reported minutes p events) :
    Reported minutes p (events ++ later) := by
  obtain ⟨waited, after, answer, event, value, rfl, rest⟩ := reported
  exact ⟨waited, after ++ later, answer, event, value, by simp, rest⟩

theorem Attempted.append (attempted : Attempted minutes chunk p events) :
    Attempted minutes chunk p (events ++ later) := by
  obtain ⟨waited, address, setting, command, rfl, encoded, sent⟩ := attempted
  refine ⟨waited, address, setting ++ later, command, by simp, encoded, fun fits => ?_⟩
  obtain ⟨address, member⟩ := sent fits
  exact ⟨address, List.mem_append_left _ member⟩

/-- A connection stays settled until the printer is dialed again. -/
theorem Timed.append (timed : Timed minutes chunk p past) (undialed : Undialed p later) :
    Timed minutes chunk p (past ++ later) := by
  obtain ⟨before, address, overlapped, since, rfl, same, settled⟩ := timed
  refine ⟨before, address, overlapped, since ++ later, by simp, same.append undialed, ?_⟩
  intro fits
  obtain ⟨asking, address, answering, rfl, done⟩ := settled fits
  refine ⟨asking, address, answering ++ later, by simp, ?_⟩
  exact done.imp Reported.append Attempted.append

end Histories

/-! ## The bridge's connection -/

/-- The connection of the bridge's printer is settled. -/
def Settled (minutes : Int) (w : World) (past : List TraceEvent) : Prop :=
  ∀ p, w.bridge.printer = some p → w.isConnected p = true →
    Timed minutes (w.printers p).transport.effectiveChunkBytes p past

/-- What a command keeps: unless the bridge connects, its connection is settled. -/
structure Kept (minutes : Int) (handled : Option CommandName) (w : World)
    (past : List TraceEvent) : Prop where
  allocated : w.Allocated
  handling : handling past = handled
  settled : connecting past = 0 → Settled minutes w past
  first : TimerFirst minutes w past

/-- The links that are up in a state were up in another, with the same size of a write. -/
structure Dims (before after : World) : Prop where
  printer : after.bridge.printer = before.bridge.printer
  nextPrinter : before.nextPrinter ≤ after.nextPrinter
  isConnected : ∀ p, after.bridge.printer = some p → after.isConnected p = true →
    before.isConnected p = true ∧ (after.printers p).transport.effectiveChunkBytes =
      (before.printers p).transport.effectiveChunkBytes

theorem dims_awaited {w after : World} (awaited : w.Awaited after) : Dims w after where
  printer := awaited.printer
  nextPrinter := awaited.nextPrinter.ge
  isConnected := by
    intro p _ connected
    refine ⟨awaited.isConnected connected, ?_⟩
    rcases (awaited.transport p).client with ⟨-, chunk⟩ | gone
    · exact chunk
    · simp [World.isConnected, Transport.isConnected, gone] at connected

theorem dims_quiet {w after : World} (quiet : w.Quiet after) : Dims w after where
  printer := quiet.printer
  nextPrinter := quiet.nextPrinter.ge
  isConnected := by
    intro p _ connected
    refine ⟨?_, quiet.chunk p⟩
    rw [World.isConnected, Transport.isConnected, quiet.connected p, quiet.client p] at connected
    exact connected

/-- Printer objects the bridge does not hold may change. -/
theorem dims_elsewhere {w : World} {q : PrinterId} (other : w.bridge.printer ≠ some q)
    (change : Printer → Printer) : Dims w (w.setPrinter q change) where
  printer := rfl
  nextPrinter := le_rfl
  isConnected := by
    intro p held connected
    have apart : p ≠ q := fun same => other (same ▸ held)
    rw [World.isConnected, World.setPrinter_printers, if_neg apart] at connected
    rw [World.setPrinter_printers, if_neg apart]
    exact ⟨connected, rfl⟩

theorem Settled.dim {minutes : Int} {w after : World} {past : List TraceEvent}
    (settled : Settled minutes w past) (dims : Dims w after) : Settled minutes after past := by
  intro p held connected
  obtain ⟨before, chunk⟩ := dims.isConnected p held connected
  rw [chunk]
  exact settled p (dims.printer ▸ held) before

/-- No write comes last. -/
theorem timerFirst_append {minutes : Int} {w : World} {past later : List TraceEvent}
    (some : later ≠ []) (unwritten : ∀ p, Unwritten p later) :
    TimerFirst minutes w (past ++ later) := by
  intro before p address data split
  rcases List.eq_nil_or_concat later with rfl | ⟨rest, last, rfl⟩
  · exact absurd rfl some
  · rw [List.concat_eq_append, ← List.append_assoc] at split
    obtain ⟨-, same⟩ := List.append_inj' split rfl
    apply absurd _ (unwritten p address data)
    rw [← (List.cons.inj same).1]
    simp

/-- While the bridge connects, its writes are part of that. -/
theorem timerFirst_connecting {minutes : Int} {w : World} {past : List TraceEvent}
    (inside : connecting past ≠ 0) : TimerFirst minutes w past := by
  rintro before p address data rfl - outside
  rw [connecting_concat] at inside
  exact absurd outside inside

namespace Kept

variable {minutes : Int} {handled : Option CommandName} {w after : World}
  {past later : List TraceEvent} {event : TraceEvent} {rely : TraceEvent → Prop} {p : PrinterId}

/-- The process goes on for a while, and no write comes last. -/
theorem extend (kept : Kept minutes handled w past) (dims : Dims w after)
    (still : ∀ event ∈ later, Still event) (some : later ≠ [])
    (unwritten : ∀ p, Unwritten p later) : Kept minutes handled after (past ++ later) where
  allocated := fun p held =>
    (kept.allocated p (dims.printer ▸ held)).trans_le dims.nextPrinter
  handling := (handling_append past still).trans kept.handling
  settled := by
    rw [connecting_append past still]
    intro outside p held connected
    have same : Settled minutes after past := (kept.settled outside).dim dims
    exact (same p held connected).append (undialed_still still)
  first := timerFirst_append some unwritten

theorem note (kept : Kept minutes handled w past) (dims : Dims w after) (still : Still event)
    (silent : ∀ p address data, event ≠ .wrote p address data) :
    Kept minutes handled after (past ++ [event]) := by
  apply kept.extend dims
  · exact fun other member => List.mem_singleton.mp member ▸ still
  · exact List.cons_ne_nil _ _
  · exact fun p address data member => silent p address data (List.mem_singleton.mp member).symm

/-- The process moves, and no write comes to have another size. -/
theorem move (kept : Kept minutes handled w past) (dims : Dims w after)
    (chunk : ∀ p, after.bridge.printer = some p →
      (after.printers p).transport.effectiveChunkBytes =
        (w.printers p).transport.effectiveChunkBytes) : Kept minutes handled after past where
  allocated := fun p held =>
    (kept.allocated p (dims.printer ▸ held)).trans_le dims.nextPrinter
  handling := kept.handling
  settled := fun outside => (kept.settled outside).dim dims
  first := by
    intro before p address data split held outside
    rw [chunk p held]
    exact kept.first before p address data split (dims.printer ▸ held) outside

/-- The bridge's fields other than its printer, and the session, tell nothing about timers. -/
theorem aside (kept : Kept minutes handled w past) (printers : after.printers = w.printers)
    (printer : after.bridge.printer = w.bridge.printer)
    (nextPrinter : after.nextPrinter = w.nextPrinter) : Kept minutes handled after past := by
  apply kept.move
  · refine ⟨printer, nextPrinter.ge, fun p _ connected => ?_⟩
    rw [World.isConnected, printers] at connected
    rw [printers]
    exact ⟨connected, rfl⟩
  · exact fun p _ => by rw [printers]

theorem idle : IdleStable rely (Kept minutes handled) where
  awaken := by
    intro w past answer kept _
    have awaited : ∀ event ∈ w.awakening answer, event.OfAwait := World.awakening_events answer
    apply kept.extend (dims_awaited (World.awaited_awaken answer))
    · exact fun event member => still_await (awaited event member)
    · exact List.cons_ne_nil _ _
    · exact fun p => unwritten_await awaited
  quiet := fun _ _ _ quiet kept => kept.move (dims_quiet quiet) fun p _ => quiet.chunk p
  event := fun w _ event wire kept _ =>
    kept.note (dims_awaited (.refl w)) (still_wire wire) (silent_wire wire)

/-- A write to any printer: to the bridge's it goes over a settled connection. -/
theorem wrote (kept : Kept minutes handled w past) {client : Client} (address : String)
    (data : Bytes) (writable : Writable w p client) :
    Kept minutes handled w (past ++ [.wrote p address data]) where
  allocated := kept.allocated
  handling := by
    rw [handling_concat]
    exact kept.handling
  settled := by
    rw [connecting_concat]
    intro outside q held connected
    exact (kept.settled outside q held connected).append (by simp [Undialed])
  first := by
    intro before q address data split held outside
    obtain ⟨rfl, same⟩ := List.append_inj' split rfl
    obtain ⟨rfl, -, -⟩ := TraceEvent.wrote.inj (List.cons.inj same).1
    apply kept.settled outside p held
    rw [World.isConnected, Transport.isConnected, writable.1, writable.2]
    rfl

/-- A link goes down. -/
theorem lower (kept : Kept minutes handled w past) (p : PrinterId) :
    Kept minutes handled (w.setConnected p false) past := by
  apply kept.move (dims_awaited (World.awaited_setConnected p))
  intro q _
  rw [World.setConnected, World.setTransport_printers]
  split
  · rfl
  · rfl

theorem wire (p : PrinterId) : WireStable rely (Kept minutes handled) p where
  toIdleStable := idle
  wrote := fun _ _ client data kept writable _ _ => kept.wrote client.address data writable
  lost := fun _ _ kept _ => (kept.lower p).note (dims_awaited (.refl _))
    (still_of_isStill rfl) fun _ _ _ same => by cases same

end Kept

/-! ## Inside a connect -/

/-- So many connects are under way. -/
structure Going (handled : Option CommandName) (count : Nat) (w : World)
    (past : List TraceEvent) : Prop where
  allocated : w.Allocated
  handling : handling past = handled
  connecting : connecting past = count

/-- A property that lasts while no printer is dialed. -/
def Lasts (holds : World → List TraceEvent → Prop) : Prop :=
  ∀ w after past later, Dims w after → (∀ event ∈ later, Still event) → holds w past →
    holds after (past ++ later)

/-- A stage of a connect. -/
abbrev Stage (handled : Option CommandName) (count : Nat)
    (holds : World → List TraceEvent → Prop) (w : World) (past : List TraceEvent) : Prop :=
  Going handled count w past ∧ holds w past

/-- The bridge's printer, with its link down. -/
abbrev Offline (p : PrinterId) (w : World) (_ : List TraceEvent) : Prop :=
  w.bridge.printer = some p ∧ w.isConnected p = false

/-- The bridge's printer has been dialed. -/
abbrev Dialed (p : PrinterId) (w : World) (past : List TraceEvent) : Prop :=
  w.bridge.printer = some p ∧ ∃ before address overlapped since,
    past = before ++ .dialed p address overlapped :: since ∧ Undialed p since

/-- The connection is settled, as far as it was before. -/
abbrev Tended (minutes : Int) (depth : Nat) (w : World) (past : List TraceEvent) : Prop :=
  depth = 0 → Settled minutes w past

theorem lasts_held (p : PrinterId) : Lasts fun w _ => w.bridge.printer = some p :=
  fun _ _ _ _ dims _ held => dims.printer.trans held

theorem lasts_offline (p : PrinterId) : Lasts (Offline p) := by
  rintro w after past later dims - ⟨held, down⟩
  refine ⟨dims.printer.trans held, Bool.eq_false_of_not_eq_true fun connected => ?_⟩
  have before := (dims.isConnected p (dims.printer.trans held) connected).1
  exact Bool.false_ne_true (down.symm.trans before)

theorem lasts_dialed (p : PrinterId) : Lasts (Dialed p) := by
  rintro w after past later dims still ⟨held, before, address, overlapped, since, rfl, undialed⟩
  refine ⟨dims.printer.trans held, before, address, overlapped, since ++ later, by simp, ?_⟩
  exact undialed.append (undialed_still still)

theorem lasts_tended (minutes : Int) (depth : Nat) : Lasts (Tended minutes depth) := by
  intro w after past later dims still tended outermost p held connected
  exact ((tended outermost).dim dims p held connected).append (undialed_still still)

namespace Going

variable {handled : Option CommandName} {count : Nat} {w after : World}
  {past later : List TraceEvent} {event : TraceEvent}

theorem move (going : Going handled count w past)
    (printer : after.bridge.printer = w.bridge.printer)
    (nextPrinter : w.nextPrinter ≤ after.nextPrinter) : Going handled count after past :=
  { going with
    allocated := fun p held => (going.allocated p (printer ▸ held)).trans_le nextPrinter }

theorem append (going : Going handled count w past) (still : ∀ event ∈ later, Still event) :
    Going handled count w (past ++ later) where
  allocated := going.allocated
  handling := (handling_append past still).trans going.handling
  connecting := (connecting_append past still).trans going.connecting

theorem note (going : Going handled count w past) (still : Still event) :
    Going handled count w (past ++ [event]) :=
  going.append fun _ member => List.mem_singleton.mp member ▸ still

theorem kept {minutes : Int} (going : Going handled (count + 1) w past) :
    Kept minutes handled w past where
  allocated := going.allocated
  handling := going.handling
  settled := fun outside => nomatch outside.symm.trans going.connecting
  first := timerFirst_connecting (by simp [going.connecting])

end Going

namespace Stage

variable {handled : Option CommandName} {count depth : Nat} {minutes : Int} {w after : World}
  {past later : List TraceEvent} {holds : World → List TraceEvent → Prop}
  {rely : TraceEvent → Prop} {p : PrinterId}

theorem extend (stage : Stage handled count holds w past) (lasts : Lasts holds)
    (dims : Dims w after) (still : ∀ event ∈ later, Still event) :
    Stage handled count holds after (past ++ later) :=
  ⟨(stage.1.move dims.printer dims.nextPrinter).append still,
    lasts w after past later dims still stage.2⟩

theorem move (stage : Stage handled count holds w past) (lasts : Lasts holds)
    (dims : Dims w after) : Stage handled count holds after past := by
  have nothing : ∀ event ∈ ([] : List TraceEvent), Still event :=
    fun _ member => absurd member List.not_mem_nil
  have moved := stage.extend lasts dims nothing
  rwa [List.append_nil] at moved

theorem note {event : TraceEvent} (stage : Stage handled count holds w past) (lasts : Lasts holds)
    (still : Still event) : Stage handled count holds w (past ++ [event]) :=
  stage.extend lasts (dims_awaited (.refl w)) fun _ member => List.mem_singleton.mp member ▸ still

theorem idle (lasts : Lasts holds) : IdleStable rely (Stage handled count holds) where
  awaken := fun _ _ answer stage _ =>
    stage.extend lasts (dims_awaited (World.awaited_awaken answer)) fun event member =>
      still_await (World.awakening_events answer event member)
  quiet := fun _ _ _ quiet stage => stage.move lasts (dims_quiet quiet)
  event := fun _ _ _ wire stage _ => stage.note lasts (still_wire wire)

theorem wire (lasts : Lasts holds) (p : PrinterId) :
    WireStable rely (Stage handled count holds) p where
  toIdleStable := idle lasts
  wrote := fun _ _ _ _ stage _ _ _ =>
    stage.note lasts (still_of_isStill rfl)
  lost := fun _ _ stage _ => (stage.move lasts (dims_awaited (World.awaited_setConnected p))).note
    lasts (still_of_isStill rfl)

theorem disconnect (lasts : Lasts holds) (p : PrinterId)
    (stage : Stage handled count holds w past) :
    Ensures rely (BleTransport.disconnect p)
      ⟨fun _ w past => Stage handled count holds w past ∧ w.isConnected p = false,
        fun _ w past => Stage handled count holds w past ∧ w.isConnected p = false,
        Stage handled count holds⟩ w past := by
  have disconnects := @ensures_disconnect rely (Stage handled count holds) p (idle lasts)
    (fun _ _ stage => stage.move lasts (dims_awaited (World.awaited_setConnected p)))
    (fun _ _ stage => stage.move lasts (dims_awaited (World.awaited_hangUp p))) w past stage
  apply disconnects.mono
  · exact fun _ _ _ => id
  · exact fun _ _ _ failed => ⟨failed.1, failed.2.1⟩
  · exact fun _ _ => id

/-- A connection that is down needs no timer. -/
theorem offline (stage : Stage handled count (Offline p) w past) :
    Stage handled count (Tended minutes depth) w past := by
  refine ⟨stage.1, fun _ q held connected => ?_⟩
  obtain rfl := Option.some.inj (stage.2.1.symm.trans held)
  exact absurd (stage.2.2.symm.trans connected) Bool.false_ne_true

end Stage

/-! ### Dialing -/

section Dialing

variable {handled : Option CommandName} {depth : Nat} {minutes : Int} {w : World}
  {past : List TraceEvent} {rely : TraceEvent → Prop} {p : PrinterId}

/-- The ends of dialing the bridge's printer. -/
abbrev Dials (minutes : Int) (handled : Option CommandName) (depth : Nat) (p : PrinterId) :
    Post PyExc World TraceEvent Unit where
  returned := fun _ => Stage handled (depth + 1) (Dialed p)
  raised := fun _ => Stage handled (depth + 1) (Tended minutes depth)
  waiting := Going handled (depth + 1)

/-- A change of the printer's own transport leaves it dialed. -/
theorem dialed_setTransport (stage : Stage handled depth (Dialed p) w past)
    (change : Transport → Transport) :
    Stage handled depth (Dialed p) (w.setTransport p change) past :=
  ⟨stage.1.move rfl le_rfl, stage.2⟩

theorem dialed_unset (stage : Stage handled depth (Dialed p) w past) :
    Stage handled depth (Offline p) (w.setClient p none) past := by
  refine ⟨stage.1.move rfl le_rfl, stage.2.1, ?_⟩
  rw [World.isConnected, World.setClient, World.setTransport_printers, if_pos rfl]
  exact Bool.and_false _

theorem dialed_negotiate : Upholds rely (Stage handled depth (Dialed p)) (fun _ => False)
    (BleTransport.negotiate p) := by
  apply Upholds.bind Upholds.read
  intro w
  apply Upholds.ite
  · intro _
    apply Upholds.bind (Stage.idle (lasts_dialed p)).tick
    intro answer
    cases answer.mtu with
    | none => exact Upholds.pure _
    | some mtu =>
        apply Upholds.ite
        · exact fun _ => Upholds.modify fun _ _ stage => dialed_setTransport stage _
        · exact fun _ => Upholds.pure _
  · exact fun _ => Upholds.pure _

theorem dialed_subscribe (stage : Stage handled (depth + 1) (Dialed p) w past) (device : Device) :
    Ensures rely (BleTransport.subscribe p device) (Dials minutes handled depth p) w past := by
  apply Ensures.read_bind
  apply Ensures.ite
  · intro _
    apply ensures_tick_bind stage.1
    intro answer relied
    have awake := (Stage.idle (lasts_dialed p)).awaken w past answer stage relied
    cases answer.bleakError with
    | none => exact Ensures.pure awake
    | some text =>
        have held : Stage handled (depth + 1) (fun w _ => w.bridge.printer = some p) _ _ :=
          ⟨awake.1, awake.2.1⟩
        apply Ensures.seq (Stage.disconnect (lasts_held p) p held)
        · rintro _ w past ⟨stage, down⟩
          have offline : Stage handled (depth + 1) (Offline p) w past := ⟨stage.1, stage.2, down⟩
          exact Ensures.raise offline.offline
        · rintro _ w past ⟨stage, down⟩
          have offline : Stage handled (depth + 1) (Offline p) w past := ⟨stage.1, stage.2, down⟩
          exact offline.offline
        · exact fun _ _ => And.left
  · intro absent
    apply Ensures.raise
    have offline : Stage handled (depth + 1) (Offline p) w past := by
      refine ⟨stage.1, stage.2.1, ?_⟩
      rw [World.isConnected, Transport.isConnected, Bool.eq_false_of_not_eq_true absent,
        Bool.and_false]
    exact offline.offline

theorem offline_connectDevice (stage : Stage handled (depth + 1) (Offline p) w past)
    (device : Device) :
    Ensures rely (BleTransport.connect p device) (Dials minutes handled depth p) w past := by
  apply Ensures.read_bind
  apply Ensures.ite
  · exact fun online => absurd (stage.2.2.symm.trans online) Bool.false_ne_true
  · intro _
    apply Ensures.bind
    apply Ensures.read_bind
    apply Ensures.modify_bind
    apply Ensures.emit
    intro _
    have dialed : Stage handled (depth + 1) (Dialed p)
        { w.setClient p (some ⟨w.nextClient, device.address⟩) with nextClient := w.nextClient + 1 }
        (past ++ [.dialed p device.address (p ∈ w.bridge.holdInFlight)]) := by
      refine ⟨⟨stage.1.allocated, ?_, ?_⟩, stage.2.1, past, _, _, [], rfl, undialed_nil⟩
      · rw [handling_concat]
        exact stage.1.handling
      · rw [connecting_concat]
        exact stage.1.connecting
    apply ensures_tick_bind dialed.1
    intro answer relied
    have awake := (Stage.idle (lasts_dialed p)).awaken _ _ answer dialed relied
    cases answer.bleakError with
    | some text =>
        apply Ensures.modify_bind
        exact Ensures.raise (dialed_unset awake).offline
    | none =>
        apply Ensures.modify_bind
        apply Upholds.seq dialed_negotiate (dialed_setTransport awake fun transport =>
          { transport with connected := true })
        · exact fun _ _ _ stage => dialed_subscribe stage device
        · exact fun _ _ _ _ => False.elim
        · exact fun _ _ => And.left

theorem offline_connect (env : Env) (stage : Stage handled (depth + 1) (Offline p) w past) :
    Ensures rely (Printer.connect env p) (Dials minutes handled depth p) w past := by
  have idle : IdleStable rely (Stage handled (depth + 1) (Offline p)) :=
    Stage.idle (lasts_offline p)
  apply ensures_connect idle
  · intro w past change same stage
    refine ⟨stage.1.move rfl le_rfl, stage.2.1, ?_⟩
    rw [World.isConnected, World.setPrinter_printers, if_pos rfl, (same _).1]
    exact stage.2.2
  · exact fun _ _ _ _ stage _ =>
      stage.note (lasts_offline p) (still_of_isStill rfl)
  · exact fun _ _ _ stage => stage.offline
  · exact fun _ _ => And.left
  · exact fun _ _ device stage => offline_connectDevice stage device
  · exact stage

end Dialing

/-! ### Setting the timer -/

/-- The connection dialed last was asked for its timer, before these events. -/
def Asked (p : PrinterId) (past answering : List TraceEvent) : Prop :=
  ∃ before address overlapped asking asked,
    past = before ++ .dialed p address overlapped ::
      (asking ++ .wrote p asked QueryCommand.deviceTimer.bytes :: answering) ∧
    Undialed p asking ∧ Undialed p answering

/-- The values the timer can have. -/
def Valid (minutes : Int) : Prop :=
  0 ≤ minutes ∧ minutes ≤ Printer.autoOffMaxMinutes ∧ minutes % 5 = 0

section Setting

variable {handled : Option CommandName} {depth : Nat} {minutes : Int} {w : World}
  {past later answering : List TraceEvent} {rely : TraceEvent → Prop} {p : PrinterId}

theorem Asked.append (asked : Asked p past answering) (undialed : Undialed p later) :
    Asked p (past ++ later) (answering ++ later) := by
  obtain ⟨before, address, overlapped, asking, asked, rfl, same, answered⟩ := asked
  exact ⟨before, address, overlapped, asking, asked, by simp, same, answered.append undialed⟩

theorem Asked.timed {chunk : Int} (asked : Asked p past answering)
    (done : Reported minutes p answering ∨ Attempted minutes chunk p answering) :
    Timed minutes chunk p past := by
  obtain ⟨before, address, overlapped, asking, asked, rfl, same, answered⟩ := asked
  refine ⟨before, address, overlapped, _, rfl, same.append ?_, fun _ => ?_⟩
  · rintro address overlapped (_ | ⟨_, member⟩)
    exact answered address overlapped member
  · exact ⟨asking, asked, answering, rfl, done⟩

theorem Asked.small {chunk : Int} (asked : Asked p past answering) (small : chunk < 3) :
    Timed minutes chunk p past := by
  obtain ⟨before, address, overlapped, asking, asked, rfl, same, answered⟩ := asked
  refine ⟨before, address, overlapped, _, rfl, same.append ?_, fun fits => ?_⟩
  · rintro address overlapped (_ | ⟨_, member⟩)
    exact answered address overlapped member
  · exact absurd small (not_lt.mpr fits)

/-- A write that holds no query leaves nothing to settle. -/
theorem timed_small {chunk : Int} (dialed : ∃ before address overlapped since,
      past = before ++ .dialed p address overlapped :: since ∧ Undialed p since)
    (small : chunk < 3) : Timed minutes chunk p past := by
  obtain ⟨before, address, overlapped, since, split, undialed⟩ := dialed
  refine ⟨before, address, overlapped, since, split, undialed, fun fits => ?_⟩
  exact absurd small (not_lt.mpr fits)

theorem Stage.tend {count : Nat} (going : Going handled count w past)
    (held : w.bridge.printer = some p)
    (timed : w.isConnected p = true →
      Timed minutes (w.printers p).transport.effectiveChunkBytes p past) :
    Stage handled count (Tended minutes depth) w past := by
  refine ⟨going, fun _ q same connected => ?_⟩
  obtain rfl := Option.some.inj (held.symm.trans same)
  exact timed connected

/-- A write to the bridge's printer, given what its refusal leaves behind. -/
theorem ensures_tendedWrite {data : Bytes} {post : Post PyExc World TraceEvent Unit}
    (stage : Stage handled (depth + 1) (fun w _ => w.bridge.printer = some p) w past)
    (small : (w.printers p).transport.effectiveChunkBytes < data.length →
      Timed minutes (w.printers p).transport.effectiveChunkBytes p past)
    (raised : ∀ error w past, Stage handled (depth + 1) (Tended minutes depth) w past →
      post.raised error w past)
    (waiting : ∀ w past, Going handled (depth + 1) w past → post.waiting w past)
    (sent : ∀ address after awaiting, (∀ event ∈ awaiting, event.OfAwait) →
      Stage handled (depth + 1) (fun w _ => w.bridge.printer = some p) after
        (past ++ (.wrote p address data :: awaiting)) →
      post.returned () after (past ++ (.wrote p address data :: awaiting))) :
    Ensures rely (BleTransport.write p data) post w past := by
  have offline : ∀ {w past}, w.isConnected p = false →
      Stage handled (depth + 1) (fun w _ => w.bridge.printer = some p) w past →
      Stage handled (depth + 1) (Tended minutes depth) w past :=
    fun down stage => Stage.tend stage.1 stage.2 fun up => absurd (down.symm.trans up) (by decide)
  have still : ∀ address, Still (.wrote p address data) :=
    fun _ => still_of_isStill rfl
  apply BleTransport.ensures_write
  · intro absent
    apply raised _ _ _ (offline _ stage)
    rw [World.isConnected, Transport.isConnected, absent]
    exact Bool.and_false _
  · intro _ down text
    apply raised _ _ _ (offline _ stage)
    rw [World.isConnected, Transport.isConnected, down, Bool.false_and]
  · exact fun tooLong text => raised _ _ _ (Stage.tend stage.1 stage.2 fun _ => small tooLong)
  · intro client _ _ _
    have wrote := stage.note (lasts_held p) (still client.address)
    refine ⟨waiting _ _ wrote.1, fun answer _ => ?_⟩
    have awaited : ∀ event ∈ w.awakening answer, event.OfAwait := World.awakening_events answer
    have awake := wrote.extend (lasts_held p) (dims_awaited (World.awaited_awaken answer))
      fun event member => still_await (awaited event member)
    constructor
    · rw [List.append_assoc] at awake ⊢
      exact sent client.address _ _ awaited awake
    · intro _ text
      have failing : Still (.writeFailed p) := still_of_isStill rfl
      have lost := (awake.move (lasts_held p) (dims_awaited (World.awaited_setConnected p))).note
        (lasts_held p) failing
      apply raised _ _ _ (offline _ lost)
      rw [World.isConnected, World.setConnected, World.setTransport_printers, if_pos rfl]
      rfl

/-- The query for the timer: it is asked, and the answer came before anything else is written. -/
theorem ensures_queryAutoOff (stage : Stage handled (depth + 1) (Dialed p) w past) :
    Ensures rely (Printer.queryAutoOff p)
      ⟨fun current w past => ∃ answering,
          Stage handled (depth + 1) (fun w _ => w.bridge.printer = some p) w past ∧
          Asked p past answering ∧ (current = some minutes → Reported minutes p answering),
        fun _ => Stage handled (depth + 1) (Tended minutes depth), Going handled (depth + 1)⟩
      w past := by
  have held : Stage handled (depth + 1) (fun w _ => w.bridge.printer = some p) w past :=
    ⟨stage.1, stage.2.1⟩
  have small : (w.printers p).transport.effectiveChunkBytes <
      QueryCommand.deviceTimer.bytes.length →
      Timed minutes (w.printers p).transport.effectiveChunkBytes p past := timed_small stage.2.2
  apply Ensures.bind
  apply Ensures.bind
  apply ensures_tendedWrite held small
  · exact fun _ _ _ => id
  · exact fun _ _ => id
  · intro address after awaiting awaited asking
    obtain ⟨-, before, dialedAt, overlapped, since, rfl, undialed⟩ := stage.2
    have asked : Asked p (before ++ .dialed p dialedAt overlapped :: since ++
        (.wrote p address QueryCommand.deviceTimer.bytes :: awaiting)) awaiting := by
      refine ⟨before, dialedAt, overlapped, since, address, by simp, undialed, ?_⟩
      exact undialed_still fun event member => still_await (awaited event member)
    have listening : after.Quiet (Printer.armed after p .timerEvent) := World.quiet_setListeners p _
    have armed := Stage.move asking (lasts_held p) (dims_quiet listening)
    apply Printer.ensures_waitFor armed.1
    intro answer result change arrived
    have awaited' : ∀ event ∈ (Printer.armed after p .timerEvent).awakening answer,
        event.OfAwait := World.awakening_events answer
    have still : ∀ event ∈ (Printer.armed after p .timerEvent).awakening answer, Still event :=
      fun event member => still_await (awaited' event member)
    have awake := Stage.extend armed (lasts_held p) (dims_awaited (World.awaited_awaken answer))
      still
    apply Ensures.pure
    refine ⟨_, Stage.move awake (lasts_held p) (dims_quiet (World.quiet_setListeners p change)),
      asked.append (undialed_still still), ?_⟩
    intro current
    obtain ⟨event, rfl, timer⟩ := Option.bind_eq_some_iff.mp current
    cases data : event.data with
    | timer value =>
        rw [data] at timer
        refine ⟨_, [], answer, event, value, (List.append_nil _).symm,
          (unwritten_await awaited).append (unwritten_await awaited'), ?_,
          (arrived event rfl).1, data, Option.some.inj timer⟩
        exact List.mem_append_right _ List.mem_cons_self
    | _ =>
        rw [data] at timer
        cases timer

/-- The ends of settling a connection. -/
abbrev Tends (minutes : Int) (handled : Option CommandName) (depth : Nat) :
    Post PyExc World TraceEvent Unit where
  returned := fun _ => Stage handled (depth + 1) (Tended minutes depth)
  raised := fun _ => Stage handled (depth + 1) (Tended minutes depth)
  waiting := Going handled (depth + 1)

/-- A timer the printer does not have is written, after the printer is reset. -/
theorem ensures_setAutoOffTimer (valid : Valid minutes)
    (stage : Stage handled (depth + 1) (fun w _ => w.bridge.printer = some p) w past)
    (asked : Asked p past answering) :
    Ensures rely (Printer.setAutoOffTimer p minutes) (Tends minutes handled depth) w past := by
  obtain ⟨nonneg, bound, step⟩ := valid
  have inRange : 0 ≤ minutes / 5 ∧ minutes / 5 ≤ 255 := by
    rw [Printer.autoOffMaxMinutes] at bound
    omega
  have command : encodeAutoOffTimer (minutes / 5) =
      .ok ([0x1b, 0x4e, 0x07] ++ [UInt8.ofNat (minutes / 5).toNat]) := if_pos inRange
  have unreset : ∀ address {awaiting : List TraceEvent}, (∀ event ∈ awaiting, event.OfAwait) →
      Undialed p (.wrote p address encodeInit :: awaiting) := by
    rintro address awaiting awaited dialed overlapped (_ | ⟨_, member⟩)
    exact (still_await (awaited _ member)).undialed p dialed overlapped rfl
  apply Ensures.ite
  · exact fun invalid => absurd invalid (by simp [nonneg, bound, step])
  · intro _
    have small : (w.printers p).transport.effectiveChunkBytes < encodeInit.length →
        Timed minutes (w.printers p).transport.effectiveChunkBytes p past :=
      fun small => asked.small (small.trans (by decide))
    apply Ensures.bind
    apply ensures_tendedWrite stage small
    · exact fun _ _ _ => id
    · exact fun _ _ => id
    · intro reset after awaiting awaited stage
      have asked := asked.append (unreset reset awaited)
      have attempted : ∀ {chunk : Int} (later : List TraceEvent),
          (4 ≤ chunk → ∃ address,
            .wrote p address ([0x1b, 0x4e, 0x07] ++ [UInt8.ofNat (minutes / 5).toNat]) ∈ later) →
          Attempted minutes chunk p
            (answering ++ .wrote p reset encodeInit :: awaiting ++ later) := by
        intro chunk later sent
        refine ⟨answering, reset, awaiting ++ later, _, by simp, command, fun fits => ?_⟩
        obtain ⟨address, member⟩ := sent fits
        exact ⟨address, List.mem_append_right _ member⟩
      have unfit : (after.printers p).transport.effectiveChunkBytes < 4 →
          Timed minutes (after.printers p).transport.effectiveChunkBytes p
            (past ++ .wrote p reset encodeInit :: awaiting) := by
        intro tooLong
        have attempted := attempted [] fun fits => absurd tooLong (not_lt.mpr fits)
        rw [List.append_nil] at attempted
        exact asked.timed (.inr attempted)
      rw [command]
      refine ensures_tendedWrite stage (by exact unfit) ?_ ?_ ?_
      · exact fun _ _ _ => id
      · exact fun _ _ => id
      · intro address after awaiting awaited stage
        have undialed : Undialed p (.wrote p address
            ([0x1b, 0x4e, 0x07] ++ [UInt8.ofNat (minutes / 5).toNat]) :: awaiting) := by
          rintro dialed overlapped (_ | ⟨_, member⟩)
          exact (still_await (awaited _ member)).undialed p dialed overlapped rfl
        apply Stage.tend stage.1 stage.2
        intro _
        apply (asked.append undialed).timed
        exact Or.inr (attempted _ fun _ => ⟨address, List.mem_cons_self⟩)

/-- The connection dialed last is settled by the time the bridge has applied its timer. -/
theorem ensures_applyAutoOff {env : Env} (configured : env.autoOffMinutes = some minutes)
    (valid : Valid minutes) (stage : Stage handled (depth + 1) (Dialed p) w past) :
    Ensures rely (Bridge.applyAutoOff env p) (Tends minutes handled depth) w past := by
  have idle : IdleStable rely (Stage handled (depth + 1) (Tended minutes depth)) :=
    Stage.idle (lasts_tended minutes depth)
  have notes : Upholds rely (Stage handled (depth + 1) (Tended minutes depth)) (fun _ => False)
      (do
        let w ← Coroutine.read
        Bridge.remember (w.printers p).addressText [("auto_off_minutes", .int minutes)]) :=
    Upholds.bind Upholds.read fun _ => idle.remember _ _
  unfold Bridge.applyAutoOff
  rw [configured]
  apply Ensures.handle
  apply Ensures.seq (ensures_queryAutoOff stage)
  · rintro current w past ⟨answering, held, asked, reported⟩
    apply Ensures.ite
    · intro _
      apply Ensures.seq (ensures_setAutoOffTimer valid held asked)
      · intro _ w past stage
        exact notes.ensures stage (fun _ _ _ => id) (fun _ _ _ _ => False.elim) fun _ _ => And.left
      · exact fun _ _ _ stage => Ensures.pure stage
      · exact fun _ _ => id
    · intro same
      have settled : Stage handled (depth + 1) (Tended minutes depth) w past :=
        Stage.tend held.1 held.2 fun _ => asked.timed (.inl (reported (not_not.mp same)))
      exact notes.ensures settled (fun _ _ _ => id) (fun _ _ _ _ => False.elim)
        fun _ _ => And.left
  · exact fun _ _ _ stage => Ensures.pure stage
  · exact fun _ _ => id

end Setting

/-! ### Connecting the bridge -/

section Connecting

variable {env : Env} {handled : Option CommandName} {depth : Nat} {minutes : Int} {w : World}
  {past : List TraceEvent} {rely : TraceEvent → Prop} {p : PrinterId}

/-- The ends of settling the model: the printer the bridge then has has been dialed. -/
abbrev Joins (minutes : Int) (handled : Option CommandName) (depth : Nat) :
    Post PyExc World TraceEvent Unit where
  returned := fun _ w past => ∃ q, Stage handled (depth + 1) (Dialed q) w past
  raised := fun _ => Stage handled (depth + 1) (Tended minutes depth)
  waiting := Going handled (depth + 1)

theorem dialed_useProfile (stage : Stage handled (depth + 1) (Dialed p) w past)
    {profile : PrinterProfile} (same : profile.bleSettings = (w.printers p).profile.bleSettings) :
    Ensures rely (Printer.useProfile p profile) (Joins minutes handled depth) w past := by
  apply Ensures.read_bind
  apply Ensures.ite
  · exact fun other => absurd same other.2
  · intro _
    apply Ensures.modify_bind
    apply Ensures.emit
    intro _
    have used : Stage handled (depth + 1) (Dialed p) (w.useProfile p profile) past :=
      ⟨stage.1.move rfl le_rfl, stage.2⟩
    exact ⟨p, used.note (lasts_dialed p) (still_of_isStill rfl)⟩

/-- A printer object put in place of another is dialed anew. -/
theorem dialed_replacePrinter (env : Env) (stage : Stage handled (depth + 1) (Dialed p) w past)
    (profile : PrinterProfile) :
    Ensures rely (do
        Printer.disconnect p
        let w ← Coroutine.read
        let q ← Bridge.factory profile ((w.printers p).addressText.map .text)
        Coroutine.modify fun w => w.setBridge fun bridge => { bridge with printer := some q }
        Coroutine.emit (.replacedPrinter p q)
        Printer.connect env q) (Joins minutes handled depth) w past := by
  have held : Stage handled (depth + 1) (fun w _ => w.bridge.printer = some p) w past :=
    ⟨stage.1, stage.2.1⟩
  apply Ensures.seq (Stage.disconnect (lasts_held p) p held)
  · rintro _ w past ⟨stage, -⟩
    apply Ensures.read_bind
    apply Ensures.bind
    apply Ensures.read_bind
    apply Ensures.modify_bind
    apply Ensures.pure
    apply Ensures.modify_bind
    apply Ensures.emit_bind
    intro _
    have anew : Stage handled (depth + 1) (Offline w.nextPrinter)
        (w.replace profile ((w.printers p).addressText.map .text)) past := by
      refine ⟨{ stage.1 with allocated := ?_ }, rfl, ?_⟩
      · rintro q ⟨⟩
        exact Nat.lt_succ_self _
      · rw [World.isConnected, World.replace_printers, World.withPrinter_new]
        rfl
    have noted : Stage handled (depth + 1) (Offline w.nextPrinter)
        (w.replace profile ((w.printers p).addressText.map .text))
        (past ++ [.replacedPrinter p w.nextPrinter]) :=
      anew.note (lasts_offline _) (still_of_isStill rfl)
    apply (offline_connect env noted).mono
    · exact fun _ _ _ stage => ⟨_, stage⟩
    · exact fun _ _ _ => id
    · exact fun _ _ => id
  · rintro _ w past ⟨stage, down⟩
    have offline : Stage handled (depth + 1) (Offline p) w past := ⟨stage.1, stage.2, down⟩
    exact offline.offline
  · exact fun _ _ => And.left

theorem dialed_applySerial (env : Env) (stage : Stage handled (depth + 1) (Dialed p) w past)
    (name : Option String) (serial : String) :
    Ensures rely (Bridge.applySerial env p name serial) (Joins minutes handled depth) w past := by
  have idle : IdleStable rely (Stage handled (depth + 1) (Dialed p)) :=
    Stage.idle (lasts_dialed p)
  have notes : ∀ address values, Upholds rely (Stage handled (depth + 1) (Dialed p))
      (fun _ => False) (Bridge.remember address values) := fun _ _ => idle.remember _ _
  apply Ensures.read_bind
  apply Upholds.seq (notes _ _) stage
  · intro _ w past stage
    cases env.registry.profileForName name (some serial) with
    | none => exact Ensures.pure ⟨p, stage⟩
    | some profile =>
        apply Ensures.read_bind
        apply Ensures.ite
        · exact fun _ => Ensures.pure ⟨p, stage⟩
        · intro _
          apply Ensures.ite
          · exact fun same => dialed_useProfile stage same
          · exact fun _ => dialed_replacePrinter env stage profile
  · exact fun _ _ _ _ => False.elim
  · exact fun _ _ => And.left

theorem dialed_refineModel (env : Env) (stage : Stage handled (depth + 1) (Dialed p) w past) :
    Ensures rely (Bridge.refineModel env p) (Joins minutes handled depth) w past := by
  have wire : WireStable rely (Stage handled (depth + 1) (Dialed p)) p :=
    Stage.wire (lasts_dialed p) p
  have asks : Upholds rely (Stage handled (depth + 1) (Dialed p)) (fun _ => False)
      (Bridge.querySerial p) := wire.bridgeSerial
  apply Ensures.read_bind
  apply Ensures.ite
  · intro _
    apply Upholds.seq asks stage
    · rintro (_ | serial) w past stage
      · exact Ensures.pure ⟨p, stage⟩
      · exact dialed_applySerial env stage _ serial
    · exact fun _ _ _ _ => False.elim
    · exact fun _ _ => And.left
  · exact fun _ => Ensures.pure ⟨p, stage⟩

/-- A printer the bridge connects has its timer settled. -/
theorem ensures_connectHeld (configured : env.autoOffMinutes = some minutes)
    (valid : Valid minutes) (stage : Stage handled (depth + 1) (Offline p) w past) :
    Ensures rely (Bridge.connectHeld env) (Tends minutes handled depth) w past := by
  apply Ensures.read_bind
  rw [stage.2.1]
  apply Ensures.seq (offline_connect env stage)
  · intro _ w past stage
    apply Ensures.seq (dialed_refineModel env stage)
    · rintro _ w past ⟨q, stage⟩
      apply Ensures.read_bind
      rw [stage.2.1]
      exact ensures_applyAutoOff configured valid stage
    · exact fun _ _ _ => id
    · exact fun _ _ => id
  · exact fun _ _ _ => id
  · exact fun _ _ => id

/-- A connect of the bridge, whose printer is settled before and after. -/
theorem tended_establish (configured : env.autoOffMinutes = some minutes)
    (valid : Valid minutes) :
    EstablishStable env rely (Stage handled (depth + 1) (Tended minutes depth))
      (Tends minutes handled depth) where
  idle := Stage.idle (lasts_tended minutes depth)
  cancelHold := fun _ _ stage => ⟨stage.1.move rfl le_rfl, stage.2⟩
  disconnect := by
    intro p w past stage _
    apply (Stage.disconnect (lasts_tended minutes depth) p stage).mono
    · exact fun _ _ _ => And.left
    · exact fun _ _ _ => And.left
    · exact fun _ _ => And.left
  dropped := fun _ _ stage => ⟨{ stage.1 with allocated := fun _ held => by cases held },
    fun _ _ held => by cases held⟩
  looked := fun _ _ _ _ stage =>
    stage.note (lasts_tended minutes depth) (still_of_isStill rfl)
  adopted := by
    intro w past profile address explicit _ stage
    have offline : Stage handled (depth + 1) (Offline w.nextPrinter)
        ((w.withPrinter profile address).adopt w.nextPrinter explicit) past := by
      refine ⟨{ stage.1 with allocated := ?_ }, rfl, ?_⟩
      · rintro q ⟨⟩
        exact Nat.lt_succ_self _
      · rw [World.isConnected, World.adopt_printers, World.withPrinter_new]
        rfl
    exact offline.offline
  refused := fun _ _ _ _ => id
  online := fun _ _ stage _ => stage
  waiting := fun _ _ => And.left
  connects := fun _ _ _ stage held down =>
    ensures_connectHeld configured valid ⟨stage.1, held, down⟩

/-- A connect of the bridge ends. -/
theorem Stage.kept {event : TraceEvent}
    (stage : Stage handled (depth + 1) (Tended minutes depth) w past)
    (ended : (∃ usable, event = .connectReturned usable) ∨ ∃ error, event = .connectRaised error) :
    Kept minutes handled w (past ++ [event]) where
  allocated := stage.1.allocated
  handling := by
    rw [handling_concat, stage.1.handling]
    rcases ended with ⟨usable, rfl⟩ | ⟨error, rfl⟩ <;> rfl
  settled := by
    rw [connecting_concat, stage.1.connecting]
    intro outermost q held connected
    have depth_zero : depth = 0 := by
      rcases ended with ⟨usable, rfl⟩ | ⟨error, rfl⟩ <;> exact outermost
    apply (stage.2 depth_zero q held connected).append
    rcases ended with ⟨usable, rfl⟩ | ⟨error, rfl⟩ <;> simp [Undialed]
  first := by
    apply timerFirst_append (List.cons_ne_nil _ _)
    intro p
    rcases ended with ⟨usable, rfl⟩ | ⟨error, rfl⟩ <;> simp [Unwritten]

/-- A connect settles the bridge's connection. -/
theorem kept_connect (configured : env.autoOffMinutes = some minutes) (valid : Valid minutes)
    (address model : Option String) :
    Keeps rely (Kept minutes handled) (Bridge.connect env address model) := by
  intro w past kept
  apply Ensures.read_bind
  apply Ensures.emit_bind
  intro _
  have called : Stage handled (connecting past + 1) (Tended minutes (connecting past)) w
      (past ++ [.connectCalled address model (Bridge.currentTarget w)]) := by
    refine ⟨⟨kept.allocated, ?_, connecting_concat _ _⟩, fun outermost q held connected => ?_⟩
    · rw [handling_concat]
      exact kept.handling
    · exact (kept.settled outermost q held connected).append (by simp [Undialed])
  have establishes : EstablishStable env rely
      (Stage handled (connecting past + 1) (Tended minutes (connecting past)))
      (Tends minutes handled (connecting past)) := tended_establish configured valid
  apply Ensures.bind
  apply Ensures.handle
  apply (establishes.establish (establishes.cancelHold _ _ called) address model).mono
  · intro _ w past stage
    apply Ensures.read_bind
    apply Ensures.emit
    exact fun _ => stage.kept (.inl ⟨_, rfl⟩)
  · intro error w past stage
    apply Ensures.emit_bind
    exact fun _ => Ensures.raise ⟨stage.kept (.inr ⟨_, rfl⟩), trivial⟩
  · exact fun _ _ => Going.kept

end Connecting

end AutoOff

end Phomemo
