import Phomemo.Async.History
import Phomemo.Bridge.NamedModel

/-!
# Connections no session uses

A session that ends leaves the connection to the idle timer if one of its commands has noted that
it uses the connection.  Some commands bring the connection up without noting it.  Where these are
left out, a connection that outlives its session has a timer that will drop it.
-/

namespace Phomemo

open Async Coroutine

/-- The commands that may reconnect the printer without noting that the session uses it. -/
def CommandName.reconnects : CommandName → Bool
  | .status | .info | .autoOff | .waitReady => true
  | _ => false

/-- What an event does to whether the session has noted that it uses the connection. -/
def marks (marked : Bool) : TraceEvent → Bool
  | .commandBegan .open _ | .commandBegan .identify _ | .commandBegan .testPage _
  | .commandBegan .eject _ | .printCalled _ => true
  | .commandBegan .disconnect _ | .sessionEnded => false
  | _ => marked

/-- Whether a command of the session noted that it uses the connection, and no `disconnect`
followed. -/
def marked (past : List TraceEvent) : Bool :=
  past.foldl marks false

theorem marked_concat (past : List TraceEvent) (event : TraceEvent) :
    marked (past ++ [event]) = marks (marked past) event := by
  simp [marked]

/-- What an event does to which handler runs. -/
def handles (handled : Option CommandName) : TraceEvent → Option CommandName
  | .commandBegan name _ => some name
  | .replied _ _ => none
  | _ => handled

/-- The command whose handler runs. -/
def handling (past : List TraceEvent) : Option CommandName :=
  past.foldl handles none

theorem handling_concat (past : List TraceEvent) (event : TraceEvent) :
    handling (past ++ [event]) = handles (handling past) event := by
  simp [handling]

/-- While the session has not noted that it uses the connection, no command connects the bridge,
and no hold expires during a command that may reconnect the printer, nor is one about to start its
disconnect when such a command begins. -/
def Attended (before : List TraceEvent) : TraceEvent → Prop
  | .connectCalled _ _ _ => marked before = true
  | .holdExpired _ => (handling before).any CommandName.reconnects = true → marked before = true
  | .commandBegan name holdScheduled =>
      name.reconnects = true → holdScheduled = true → marked before = true
  | _ => True

instance (before : List TraceEvent) : DecidablePred (Attended before) := fun event => by
  apply @TraceEvent.casesOn (fun event => Decidable (Attended before event)) event <;> intros <;>
    first
    | exact .isTrue trivial
    | exact inferInstanceAs (Decidable (_ = _))
    | exact inferInstanceAs (Decidable (_ → _))

theorem marks_ordinary {event : TraceEvent} (ordinary : event.Ordinary) (marked : Bool) :
    marks marked event = marked := by
  cases ordinary with
  | await kind => cases kind <;> rfl
  | wire kind => cases kind <;> rfl
  | connect kind => cases kind <;> rfl
  | waits kind => cases kind <;> rfl
  | writeFailed p => rfl
  | wrote p address data => rfl
  | dialed p address overlapped => rfl
  | resolved asked found => rfl
  | usedProfile p old new => rfl
  | replacedPrinter old new => rfl

theorem handles_ordinary {event : TraceEvent} (ordinary : event.Ordinary)
    (handled : Option CommandName) : handles handled event = handled := by
  cases ordinary with
  | await kind => cases kind <;> rfl
  | wire kind => cases kind <;> rfl
  | connect kind => cases kind <;> rfl
  | waits kind => cases kind <;> rfl
  | writeFailed p => rfl
  | wrote p address data => rfl
  | dialed p address overlapped => rfl
  | resolved asked found => rfl
  | usedProfile p old new => rfl
  | replacedPrinter old new => rfl

theorem marked_append (past : List TraceEvent) {later : List TraceEvent}
    (ordinary : ∀ event ∈ later, event.Ordinary) : marked (past ++ later) = marked past := by
  induction later generalizing past with
  | nil => rw [List.append_nil]
  | cons event later ih =>
      rw [List.append_cons, ih _ fun other member => ordinary other (List.mem_cons_of_mem _ member),
        marked_concat, marks_ordinary (ordinary event List.mem_cons_self)]

namespace World

variable {w after : World}

/-- A session is active that has noted that it uses the connection. -/
def Marked (w : World) : Prop :=
  w.bridge.sessionActive = true ∧ w.session.usedLink = true

/-- The bridge's printer object has been made. -/
def Allocated (w : World) : Prop :=
  ∀ p, w.bridge.printer = some p → p < w.nextPrinter

/-- A connection is used by a session, or a hold on it will expire. -/
def Covered (w : World) : Prop :=
  w.bridgeConnected = true →
    w.Marked ∨ w.bridge.holdArmed = true ∨ 0 < w.bridge.holdScheduled

theorem happen_usedLink (w : World) (incident : Incident) :
    (w.happen incident).1.session.usedLink = w.session.usedLink := by
  cases incident with
  | abort => rfl
  | dropped p => rfl
  | notified p events => rfl
  | holdExpires =>
      simp only [happen]
      split <;> rfl
  | holdStarts =>
      simp only [happen]
      split
      · rfl
      · simp only [startHoldTask]
        split
        · rfl
        · split <;> rfl
  | holdEnds p =>
      simp only [happen]
      split <;> rfl

theorem awaken_usedLink (answer : Tick) :
    (w.awaken answer).session.usedLink = w.session.usedLink := by
  apply @awaken_induction w (fun _ => True)
    (fun after _ => after.session.usedLink = w.session.usedLink)
  · exact fun _ _ _ => id
  · exact fun after _ incident same _ => (after.happen_usedLink incident).trans same
  · exact fun _ _ _ => id
  · exact []
  · rfl
  · exact fun _ _ => trivial

/-- Awaits bring no connection up. -/
theorem Awaited.bridgeConnected (awaited : w.Awaited after)
    (connected : after.bridgeConnected = true) : w.bridgeConnected = true := by
  unfold World.bridgeConnected at connected ⊢
  rw [awaited.printer] at connected
  cases held : w.bridge.printer with
  | none =>
      rw [held] at connected
      exact connected
  | some p =>
      rw [held] at connected
      exact awaited.isConnected connected

theorem Quiet.bridgeConnected (quiet : w.Quiet after) :
    after.bridgeConnected = w.bridgeConnected := by
  unfold World.bridgeConnected World.isConnected Transport.isConnected
  rw [quiet.printer]
  cases w.bridge.printer with
  | none => rfl
  | some p =>
      dsimp only
      rw [quiet.connected p, quiet.client p]

theorem Marked.happen (marked : w.Marked) (incident : Incident) : (w.happen incident).1.Marked :=
  ⟨(awaited_happen incident).sessionActive.trans marked.1,
    (w.happen_usedLink incident).trans marked.2⟩

theorem bridgeConnected_of_printer {p : PrinterId} (held : w.bridge.printer = some p) :
    w.bridgeConnected = w.isConnected p := by
  rw [bridgeConnected, held]

/-- A hold's disconnect task has taken the connection down when it first waits. -/
theorem startHoldTask_disconnects : w.startHoldTask.1.bridgeConnected = false := by
  unfold startHoldTask
  dsimp only
  cases held : w.cancelHold.bridge.printer with
  | none =>
      unfold World.bridgeConnected
      rw [held]
  | some p =>
      dsimp only
      split
      · have down : (w.cancelHold.setConnected p false).isConnected p = false := by
          simp [World.isConnected, setConnected, setTransport_printers, Transport.isConnected]
        refine (@bridgeConnected_of_printer _ p ?_).trans down
        exact held
      · next down =>
          rw [bridgeConnected_of_printer held]
          exact Bool.eq_false_of_not_eq_true down

/-- The timer of a hold expires into a task, and the task takes the connection down. -/
theorem Covered.happen (covered : w.Covered) (incident : Incident) :
    (w.happen incident).1.Covered := by
  intro connected
  have before := (awaited_happen incident).bridgeConnected connected
  rcases covered before with marked | held
  · exact .inl (marked.happen incident)
  · cases incident with
    | abort => exact .inr held
    | dropped p => exact .inr held
    | notified p events => exact .inr held
    | holdExpires =>
        simp only [World.happen]
        split
        · exact .inr (.inr (Nat.succ_pos _))
        · exact .inr held
    | holdStarts =>
        simp only [World.happen] at connected ⊢
        split at connected
        · exact .inr held
        · rw [startHoldTask_disconnects] at connected
          cases connected
    | holdEnds p =>
        simp only [World.happen]
        split
        · exact .inr held
        · exact .inr held

theorem Quiet.covered (quiet : w.Quiet after) (covered : w.Covered) : after.Covered := by
  intro connected
  rw [quiet.bridgeConnected] at connected
  rw [Marked, quiet.bridge, quiet.usedLink]
  exact covered connected

end World

/-! ## Sessions that noted their use -/

/-- A session that has noted that it uses the connection. -/
def Using (w : World) : Prop := w.Allocated ∧ w.Marked

namespace Using

variable {w after : World} {rely : TraceEvent → Prop}

theorem move (uses : Using w) (printer : after.bridge.printer = w.bridge.printer)
    (next : w.nextPrinter ≤ after.nextPrinter)
    (active : after.bridge.sessionActive = w.bridge.sessionActive)
    (usedLink : after.session.usedLink = w.session.usedLink) : Using after := by
  obtain ⟨allocated, isActive, used⟩ := uses
  refine ⟨?_, active.trans isActive, usedLink.trans used⟩
  intro p held
  exact (allocated p (printer.symm.trans held)).trans_le next

theorem idle : IdleStable rely fun w _ => Using w where
  awaken := fun w _ answer uses _ =>
    have awaited := World.awaited_awaken (w := w) answer
    uses.move awaited.printer awaited.nextPrinter.ge awaited.sessionActive
      (World.awaken_usedLink answer)
  quiet := fun w after _ quiet uses => by
    apply uses.move quiet.printer quiet.nextPrinter.ge
    · rw [quiet.bridge]
    · exact quiet.usedLink
  event := fun _ _ _ _ uses _ => uses

theorem link (p : PrinterId) : LinkStable rely (fun w _ => Using w) p fun _ _ => True where
  toIdleStable := idle
  wrote := fun _ _ _ _ uses _ _ _ => uses
  lost := fun _ _ uses _ => uses
  downed := fun _ _ uses => uses
  hungUp := fun _ _ uses => uses
  unset := fun _ _ uses => uses
  dialed := fun _ _ _ uses _ _ => uses
  up := fun _ _ uses => uses
  negotiated := fun _ _ _ _ uses => uses
  named := fun _ _ _ uses _ => uses
  learned := fun _ => trivial
  sought := fun _ _ _ => trivial
  handed := fun _ => trivial
  resolved := fun _ _ _ _ uses _ => uses

/-- The bridge takes over a new printer object. -/
theorem adopt (uses : Using w) (profile : PrinterProfile) (address : Option PrinterAddress)
    (explicit : Bool) : Using ((w.withPrinter profile address).adopt w.nextPrinter explicit) := by
  refine ⟨?_, uses.2⟩
  intro p held
  obtain rfl := Option.some.inj held
  exact Nat.lt_succ_self _

theorem bridge (env : Env) :
    BridgeStable env rely (fun _ w _ => Using w) fun _ _ => True where
  idle := fun _ => idle
  link := fun _ p _ => link p
  hold := fun _ _ _ _ uses _ => uses
  letGo := fun _ _ _ _ => id
  marked := fun _ _ _ uses => ⟨uses.1, uses.2.1, rfl⟩
  event := fun _ _ _ _ _ uses _ => uses
  connecting := fun _ _ _ _ _ uses _ => uses
  cancelHold := fun _ _ _ => id
  adopted := fun _ _ _ device profile uses _ _ _ =>
    uses.adopt profile (some (.device device)) false
  usedProfile := fun _ _ _ _ _ uses _ _ _ _ => uses
  replaced := by
    intro _ w past p profile uses _ _ _ _
    refine ⟨?_, uses.2⟩
    intro q held
    obtain rfl := Option.some.inj held
    exact Nat.lt_succ_self _

theorem handlers (env : Env) : HandlerStable env rely fun _ w _ => Using w where
  toWaitStable := (bridge env).waits
  page := fun _ _ _ _ _ uses _ => uses
  streamed := fun _ _ _ _ _ _ _ uses _ _ => uses

theorem opens (env : Env) (address model : Option String) :
    OpenStable env rely (fun _ w _ => Using w) (fun _ w _ => Using w) (fun w _ => Using w)
      (fun w _ => Using w) (fun _ => True) (fun _ _ => True) address model where
  before := bridge env
  after := bridge env
  seeks := idle
  remembered := fun _ _ _ _ _ => trivial
  called := fun _ _ uses _ => uses
  kept := fun _ _ _ uses _ _ _ _ => uses
  decides := fun _ _ _ _ _ _ => trivial
  dropped := fun _ _ uses _ => ⟨(fun _ held => by cases held), uses.2⟩
  modelled := fun _ _ _ profile uses _ _ => uses.adopt profile _ true
  scanned := fun _ _ _ profile uses _ _ _ _ => uses.adopt profile _ false
  unfound := fun _ _ uses _ _ => uses
  forget := fun _ _ => id
  answered := fun _ _ _ uses _ => uses
  refused := fun _ _ uses _ _ => uses
  waiting := fun _ _ => id
  waitingSought := fun _ _ => id

end Using

/-! ## The connection between commands -/

/-- What holds between commands: a connection is used or will be dropped. -/
structure Attending (w : World) (past : List TraceEvent) : Prop where
  allocated : w.Allocated
  marked : marked past = true → w.Marked
  covered : w.Covered

namespace Attending

variable {w after : World} {past : List TraceEvent} {rely : TraceEvent → Prop}

theorem append {later : List TraceEvent} (attending : Attending w past)
    (ordinary : ∀ event ∈ later, event.Ordinary) : Attending w (past ++ later) where
  allocated := attending.allocated
  marked := by
    rw [marked_append past ordinary]
    exact attending.marked
  covered := attending.covered

theorem note {event : TraceEvent} (attending : Attending w past) (ordinary : event.Ordinary) :
    Attending w (past ++ [event]) :=
  attending.append fun _ member => List.mem_singleton.mp member ▸ ordinary

theorem quiet (attending : Attending w past) (quiet : w.Quiet after) : Attending after past where
  allocated := by
    intro p held
    rw [quiet.nextPrinter]
    exact attending.allocated p (quiet.printer.symm.trans held)
  marked := by
    rw [World.Marked, quiet.bridge, quiet.usedLink]
    exact attending.marked
  covered := quiet.covered attending.covered

/-- A connection goes down. -/
theorem lower (attending : Attending w past) (p : PrinterId) :
    Attending (w.setConnected p false) past where
  allocated := attending.allocated
  marked := attending.marked
  covered := fun connected =>
    attending.covered ((World.awaited_setConnected p).bridgeConnected connected)

theorem idle : IdleStable rely Attending where
  awaken := by
    intro w past answer attending _
    have awaited := World.awaited_awaken (w := w) answer
    have later : Attending w (past ++ w.awakening answer) :=
      attending.append fun event member => .await (World.awakening_events answer event member)
    refine ⟨?_, ?_, ?_⟩
    · intro p held
      rw [awaited.nextPrinter]
      exact attending.allocated p (awaited.printer.symm.trans held)
    · intro isMarked
      have before := later.marked isMarked
      exact ⟨awaited.sessionActive.trans before.1, (World.awaken_usedLink answer).trans before.2⟩
    · apply @World.awaken_induction w (fun _ => True) (fun w _ => w.Covered)
      · exact fun _ _ _ => id
      · exact fun _ _ incident covered _ => covered.happen incident
      · exact fun _ _ _ => id
      · exact past
      · exact attending.covered
      · exact fun _ _ => trivial
  quiet := fun _ _ _ quiet attending => attending.quiet quiet
  event := fun _ _ _ wire attending _ => attending.note (.wire wire)

theorem wire (p : PrinterId) : WireStable rely Attending p where
  toIdleStable := idle
  wrote := fun _ _ _ _ attending _ _ _ => attending.note (.wrote _ _ _)
  lost := fun _ _ attending _ => (attending.lower p).note (.writeFailed p)

/-! ### Printers other than the bridge's -/

/-- A printer object the bridge does not hold changes. -/
theorem elsewhere (attending : Attending w past) {q : PrinterId}
    (other : w.bridge.printer ≠ some q) (change : Printer → Printer) :
    Attending (w.setPrinter q change) past where
  allocated := attending.allocated
  marked := attending.marked
  covered := by
    intro connected
    apply attending.covered
    unfold World.bridgeConnected at connected ⊢
    cases held : w.bridge.printer with
    | none =>
        have same : (w.setPrinter q change).bridge.printer = none := held
        rw [same] at connected
        exact connected
    | some p =>
        have same : (w.setPrinter q change).bridge.printer = some p := held
        have apart : p ≠ q := fun equal => other (equal ▸ held)
        rw [same] at connected
        dsimp only at connected
        rw [World.isConnected, World.setPrinter_printers, if_neg apart] at connected
        exact connected

/-- A brief connection to a printer the bridge does not hold. -/
abbrev Probing (q : PrinterId) (w : World) (past : List TraceEvent) : Prop :=
  Attending w past ∧ w.bridge.printer ≠ some q

theorem probing_idle (q : PrinterId) : IdleStable rely (Probing q) where
  awaken := fun w past answer probing relied =>
    ⟨idle.awaken w past answer probing.1 relied, by
      rw [(World.awaited_awaken (w := w) answer).printer]
      exact probing.2⟩
  quiet := fun w after past quiet probing => ⟨probing.1.quiet quiet, by
    rw [quiet.printer]
    exact probing.2⟩
  event := fun _ _ _ wire probing _ => ⟨probing.1.note (.wire wire), probing.2⟩

theorem probing_link (q : PrinterId) : LinkStable rely (Probing q) q fun _ _ => True := by
  have wire : WireStable rely (Probing q) q :=
    { probing_idle q with
      wrote := fun _ _ _ _ probing _ _ _ => ⟨probing.1.note (.wrote _ _ _), probing.2⟩
      lost := fun _ _ probing _ => ⟨(probing.1.lower q).note (.writeFailed q), probing.2⟩ }
  apply LinkStable.elsewhere wire
  · exact fun _ _ change probing => ⟨probing.1.elsewhere probing.2 change, probing.2⟩
  · exact fun _ _ _ probing =>
      ⟨⟨probing.1.allocated, probing.1.marked, probing.1.covered⟩, probing.2⟩
  · exact fun _ _ _ _ probing _ => ⟨probing.1.note (.dialed _ _ _), probing.2⟩
  · exact fun _ _ _ _ probing _ => ⟨probing.1.note (.resolved _ _), probing.2⟩

theorem probes (env : Env) : ProbeStable env rely (fun _ => Attending) Probing where
  idle := fun _ => idle
  hold := fun _ _ _ _ attending _ => attending
  letGo := fun _ _ _ _ => id
  marked := by
    intro _ w past attending
    refine ⟨attending.allocated, fun isMarked => ⟨(attending.marked isMarked).1, rfl⟩, ?_⟩
    intro connected
    exact (attending.covered connected).imp_left fun before => ⟨before.1, rfl⟩
  event := fun _ _ _ _ waits attending _ => attending.note (.waits waits)
  wire := wire
  probed := by
    intro w past device profile attending _
    have free : w.bridge.printer ≠ some w.nextPrinter := fun held =>
      absurd (attending.allocated _ held) (lt_irrefl _)
    have made := attending.elsewhere free fun _ => Printer.new profile (some (.device device))
    exact ⟨⟨fun p held => Nat.lt_succ_of_lt (made.allocated p held), made.marked, made.covered⟩,
      free⟩
  probe := fun q => (probing_link q).device env
  left := fun _ _ _ => And.left

end Attending

/-! ## Sessions that did not note their use -/

/-- What holds as long as connections are attended. -/
abbrev Given (holds : World → List TraceEvent → Prop) (w : World) (past : List TraceEvent) : Prop :=
  Throughout Attended past → holds w past

section

variable {α : Type} {rely : TraceEvent → Prop} {w : World} {past : List TraceEvent}

/-- Nothing is claimed of a program once a connection was not attended. -/
theorem ensures_unattended {program : Py α} {post : Post PyExc World TraceEvent α}
    (unattended : ¬Throughout Attended past)
    (returned : ∀ value w past, ¬Throughout Attended past → post.returned value w past)
    (raised : ∀ error w past, ¬Throughout Attended past → post.raised error w past)
    (waiting : ∀ w past, ¬Throughout Attended past → post.waiting w past) :
    Ensures rely program post w past := by
  have never : ∀ later, ¬Throughout Attended (past ++ later) :=
    fun later all => unattended all.of_append
  have ends := @Ensures.of_past _ _ _ _ _ rely w past program
    (fun past => ¬Throughout Attended past) never
  exact ends.mono returned raised waiting

/-- Connections are attended up to where a program starts. -/
theorem ensures_given {program : Py α} {holds : World → List TraceEvent → Prop}
    (ensures : Throughout Attended past → Ensures rely program
      ⟨fun _ => Given holds, fun _ w past => Given holds w past ∧ True, Given holds⟩ w past) :
    Ensures rely program
      ⟨fun _ => Given holds, fun _ w past => Given holds w past ∧ True, Given holds⟩ w past := by
  by_cases attended : Throughout Attended past
  · exact ensures attended
  · apply ensures_unattended attended
    · exact fun _ _ _ never all => absurd all never
    · exact fun _ _ _ never => ⟨fun all => absurd all never, trivial⟩
    · exact fun _ _ never all => absurd all never

/-- A session that has not noted its use does not connect the bridge. -/
theorem keeps_connect {holds : World → List TraceEvent → Prop}
    (unmarked : ∀ w past, holds w past → marked past = false) (env : Env) :
    Keeps rely (Given holds) (Bridge.connect env none none) := by
  intro w past given
  apply Ensures.read_bind
  apply Ensures.emit_bind
  intro _
  apply ensures_given
  intro all
  have noted : marked past = true := all.last
  have unnoted := unmarked w past (given all.of_concat)
  exact absurd (unnoted.symm.trans noted) Bool.false_ne_true

end

/-- A command that may reconnect runs in a session that has not noted its use, and the timer that
will drop the connection runs. -/
structure Armed (w : World) (past : List TraceEvent) : Prop where
  allocated : w.Allocated
  active : w.bridge.sessionActive = true
  armed : w.bridge.holdArmed = true
  unscheduled : w.bridge.holdScheduled = 0
  unmarked : marked past = false
  reconnects : (handling past).any CommandName.reconnects = true

namespace Armed

variable {w after : World} {past : List TraceEvent} {rely : TraceEvent → Prop}

theorem note {event : TraceEvent} (armed : Given Armed w past) (ordinary : event.Ordinary) :
    Given Armed w (past ++ [event]) := by
  intro all
  obtain ⟨allocated, active, isArmed, unscheduled, unmarked, reconnects⟩ := armed all.of_concat
  refine ⟨allocated, active, isArmed, unscheduled, ?_, ?_⟩
  · rw [marked_concat, marks_ordinary ordinary]
    exact unmarked
  · rw [handling_concat, handles_ordinary ordinary]
    exact reconnects

theorem move (armed : Given Armed w past) (printer : after.bridge.printer = w.bridge.printer)
    (next : after.nextPrinter = w.nextPrinter)
    (active : after.bridge.sessionActive = w.bridge.sessionActive)
    (isArmed : after.bridge.holdArmed = w.bridge.holdArmed)
    (scheduled : after.bridge.holdScheduled = w.bridge.holdScheduled) :
    Given Armed after past := by
  intro all
  have before := armed all
  refine ⟨?_, active.trans before.active, isArmed.trans before.armed,
    scheduled.trans before.unscheduled, before.unmarked, before.reconnects⟩
  intro p held
  rw [next]
  exact before.allocated p (printer.symm.trans held)

/-- No hold expires, and none is about to start its disconnect. -/
theorem happen (armed : Given Armed w past) (incident : Incident) :
    Given Armed (w.happen incident).1 (past ++ (w.happen incident).2) := by
  cases incident with
  | abort =>
      simp only [World.happen, List.append_nil]
      exact move armed rfl rfl rfl rfl rfl
  | dropped p =>
      have down : Given Armed (w.setConnected p false) past :=
        move armed rfl rfl rfl rfl rfl
      exact note down (.await (.peerDropped p))
  | notified p events =>
      simp only [World.happen, List.append_nil]
      exact move armed rfl rfl rfl rfl rfl
  | holdExpires =>
      simp only [World.happen]
      split
      · intro all
        have before := armed all.of_concat
        have noted : marked past = true := all.last before.reconnects
        exact absurd (before.unmarked.symm.trans noted) Bool.false_ne_true
      · simpa using armed
  | holdStarts =>
      intro all
      have before := armed all.of_append
      simp only [World.happen, before.unscheduled, List.append_nil] at all ⊢
      exact before
  | holdEnds p =>
      simp only [World.happen]
      split
      · have down : Given Armed ((w.hangUp p).setBridge fun bridge =>
            { bridge with holdInFlight := bridge.holdInFlight.erase p }) past :=
          move armed rfl rfl rfl rfl rfl
        split
        · exact note down (.await (.holdDropped _))
        · simpa using down
      · simpa using armed

theorem idle : IdleStable rely (Given Armed) where
  awaken := fun w past answer armed relied =>
    @World.awaken_induction w rely (Given Armed)
      (fun _ _ answer armed => note armed (.await (.tick answer)))
      (fun _ _ incident armed _ => happen armed incident)
      (fun _ _ _ armed => move armed rfl rfl rfl rfl rfl) answer past armed relied
  quiet := fun w after past quiet armed => by
    apply move armed quiet.printer quiet.nextPrinter <;> rw [quiet.bridge]
  event := fun _ _ _ wire armed _ => note armed (.wire wire)

theorem link (p : PrinterId) : LinkStable rely (Given Armed) p fun _ _ => True where
  toIdleStable := idle
  wrote := fun _ _ _ _ armed _ _ _ => note armed (.wrote _ _ _)
  lost := fun w _ armed _ => by
    have down : Given Armed (w.setConnected p false) _ :=
      move armed rfl rfl rfl rfl rfl
    exact note down (.writeFailed p)
  downed := fun _ _ armed => move armed rfl rfl rfl rfl rfl
  hungUp := fun _ _ armed => move armed rfl rfl rfl rfl rfl
  unset := fun _ _ armed => move armed rfl rfl rfl rfl rfl
  dialed := by
    intro w past device armed _ _
    have dialed : Given Armed { w.setClient p (some ⟨w.nextClient, device.address⟩) with
      nextClient := w.nextClient + 1 } past :=
      move armed rfl rfl rfl rfl rfl
    exact note dialed (.dialed _ _ _)
  up := fun _ _ armed => move armed rfl rfl rfl rfl rfl
  negotiated := fun _ _ _ _ armed => move armed rfl rfl rfl rfl rfl
  named := fun _ _ _ armed _ => move armed rfl rfl rfl rfl rfl
  learned := fun _ => trivial
  sought := fun _ _ _ => trivial
  handed := fun _ => trivial
  resolved := fun _ _ _ _ armed _ => note armed (.resolved _ _)

theorem waits (env : Env) : WaitStable env rely fun _ => Given Armed where
  idle := fun _ => idle
  hold := fun _ _ _ _ armed _ => armed
  letGo := fun _ _ _ _ => id
  marked := fun _ _ _ armed => move armed rfl rfl rfl rfl rfl
  event := fun _ _ _ _ waits armed _ => note armed (.waits waits)
  device := fun _ p _ => (link p).device env
  connect := fun _ => keeps_connect (fun _ _ => Armed.unmarked) env

theorem attending (armed : Armed w past) : Attending w past where
  allocated := armed.allocated
  marked := fun isMarked => absurd (armed.unmarked.symm.trans isMarked) Bool.false_ne_true
  covered := fun _ => .inr (.inl armed.armed)

end Armed

/-- A session that has not noted its use runs, and the bridge is not connected. -/
structure Unlinked (w : World) (past : List TraceEvent) : Prop where
  allocated : w.Allocated
  active : w.bridge.sessionActive = true
  unmarked : marked past = false
  unlinked : w.bridgeConnected = false

/-- Awaits keep what they keep without the condition. -/
theorem IdleStable.given {rely : TraceEvent → Prop} {holds : World → List TraceEvent → Prop}
    (stable : IdleStable rely holds) : IdleStable rely (Given holds) where
  awaken := fun w past answer given relied all =>
    stable.awaken w past answer (given all.of_append) relied
  quiet := fun w after past quiet given all => stable.quiet w after past quiet (given all)
  event := fun w past event wire given relied all =>
    stable.event w past event wire (given all.of_concat) relied

namespace Unlinked

variable {w after : World} {past : List TraceEvent} {rely : TraceEvent → Prop}

theorem attending (unlinked : Unlinked w past) : Attending w past where
  allocated := unlinked.allocated
  marked := fun isMarked => absurd (unlinked.unmarked.symm.trans isMarked) Bool.false_ne_true
  covered := fun connected => absurd (unlinked.unlinked.symm.trans connected) Bool.false_ne_true

/-- Awaits bring no connection up. -/
theorem awaits (unlinked : Unlinked w past) (awaited : w.Awaited after) : Unlinked after past where
  allocated := by
    intro p held
    rw [awaited.nextPrinter]
    exact unlinked.allocated p (awaited.printer.symm.trans held)
  active := awaited.sessionActive.trans unlinked.active
  unmarked := unlinked.unmarked
  unlinked := Bool.eq_false_of_not_eq_true fun connected =>
    Bool.false_ne_true (unlinked.unlinked.symm.trans (awaited.bridgeConnected connected))

theorem append {later : List TraceEvent} (unlinked : Unlinked w past)
    (ordinary : ∀ event ∈ later, event.Ordinary) : Unlinked w (past ++ later) :=
  { unlinked with unmarked := (marked_append past ordinary).trans unlinked.unmarked }

theorem idle : IdleStable rely Unlinked where
  awaken := fun w _ answer unlinked _ =>
    (unlinked.awaits (World.awaited_awaken answer)).append fun event member =>
      .await (World.awakening_events answer event member)
  quiet := by
    intro w after past quiet unlinked
    have attending := unlinked.attending.quiet quiet
    refine ⟨attending.allocated, ?_, unlinked.unmarked, ?_⟩
    · rw [quiet.bridge]
      exact unlinked.active
    · rw [quiet.bridgeConnected]
      exact unlinked.unlinked
  event := fun _ _ event wire unlinked _ =>
    unlinked.append fun _ member => List.mem_singleton.mp member ▸ .wire wire

/-- A session that has not noted its use waits for the connection forever. -/
theorem waitReady (env : Env) (settle : ℚ) (emptyReason : WaitingReason) :
    Keeps rely (Given Unlinked) (Session.waitReady env settle emptyReason) := by
  apply Upholds.iterate
  rintro ⟨timeouts, state⟩
  apply Upholds.read_bind
  intro w past unlinked
  have stays : IdleStable rely (Given Unlinked) := idle.given
  have connects : Keeps rely (Given Unlinked) (Session.connectOnce env state >>= fun state =>
      pure (.inl (timeouts, state) : (Nat × Option WaitingReason) ⊕ Unit)) := by
    have connect := @keeps_connect rely Unlinked (fun _ _ => Unlinked.unmarked) env
    exact Upholds.bind (stays.connectOnce connect state) fun _ => Upholds.pure _
  apply Ensures.ite
  · exact fun _ => Ensures.raise ⟨unlinked, trivial⟩
  · intro _
    cases held : w.bridge.printer with
    | none => exact connects w past unlinked
    | some p =>
        apply Ensures.ite
        · intro linked
          have connected : w.bridgeConnected = true := by
            rw [World.bridgeConnected, held]
            exact linked
          have never : ¬Throughout Attended past := fun all =>
            Bool.false_ne_true ((unlinked all).unlinked.symm.trans connected)
          apply ensures_unattended never
          · rintro (next | value) w past never
            · exact fun all => absurd all never
            · exact fun all => absurd all never
          · exact fun _ _ _ never => ⟨fun all => absurd all never, trivial⟩
          · exact fun _ _ never all => absurd all never
        · exact fun _ => connects w past unlinked

/-- A command that needs the printer is refused. -/
theorem ensures_requirePrinter {post : Post PyExc World TraceEvent PrinterId}
    (unlinked : Unlinked w past) (refused : ∀ text, post.raised (.commandError text) w past) :
    Ensures rely Session.requirePrinter post w past := by
  apply Ensures.read_bind
  cases held : w.bridge.printer with
  | none => exact Ensures.raise (refused _)
  | some p =>
      apply Ensures.ite
      · intro linked
        have connected : w.bridgeConnected = true := by
          rw [World.bridgeConnected, held]
          exact linked
        exact absurd (unlinked.unlinked.symm.trans connected) Bool.false_ne_true
      · exact fun _ => Ensures.raise (refused _)

end Unlinked

/-! ## Commands -/

/-- How a command ends, and where it waits. -/
abbrev Attends {α : Type} : Post PyExc World TraceEvent α where
  returned := fun _ => Given Attending
  raised := fun _ w past => Given Attending w past ∧ True
  waiting := Given Attending

theorem Using.attending {w : World} {past : List TraceEvent} (uses : Using w) :
    Attending w past where
  allocated := uses.1
  marked := fun _ => uses.2
  covered := fun _ => .inl uses.2

section

variable {α : Type} {rely : TraceEvent → Prop} {w : World} {past : List TraceEvent}
  {program : Py α}

theorem Using.ensures (keeps : Keeps rely (fun w _ => Using w) program) (uses : Using w) :
    Ensures rely program Attends w past :=
  Upholds.ensures keeps uses (fun _ _ _ uses _ => uses.attending)
    (fun _ _ _ uses _ => ⟨fun _ => uses.attending, trivial⟩) fun _ _ uses _ => uses.attending

theorem Attending.ensures (keeps : Keeps rely Attending program) (attending : Attending w past) :
    Ensures rely program Attends w past :=
  Upholds.ensures keeps attending (fun _ _ _ attending _ => attending)
    (fun _ _ _ attending _ => ⟨fun _ => attending, trivial⟩) fun _ _ attending _ => attending

theorem Armed.ensures (keeps : Keeps rely (Given Armed) program) (armed : Armed w past) :
    Ensures rely program Attends w past :=
  Upholds.ensures keeps (fun _ => armed) (fun _ _ _ given all => (given all).attending)
    (fun _ _ _ given _ => ⟨fun all => (given all).attending, trivial⟩)
    fun _ _ given all => (given all).attending

theorem Unlinked.ensures (keeps : Keeps rely (Given Unlinked) program)
    (unlinked : Unlinked w past) :
    Ensures rely program Attends w past :=
  Upholds.ensures keeps (fun _ => unlinked) (fun _ _ _ given all => (given all).attending)
    (fun _ _ _ given _ => ⟨fun all => (given all).attending, trivial⟩)
    fun _ _ given all => (given all).attending

/-- A command that notes first of all that it uses the connection. -/
theorem ensures_noted {next : Unit → Py α}
    (keeps : Keeps rely (fun w _ => Using w) (Session.useLink >>= next)) (allocated : w.Allocated)
    (active : w.bridge.sessionActive = true) :
    Ensures rely (Session.useLink >>= next) Attends w past := by
  have uses : Using (w.setSession fun session => { session with usedLink := true }) :=
    ⟨allocated, active, rfl⟩
  apply Ensures.modify_bind
  exact Ensures.of_modify_bind (uses.ensures keeps)

end

namespace Attending

variable {rely : TraceEvent → Prop} {w : World} {past : List TraceEvent}

/-- The state and the trace a handler starts with. -/
theorem accept (attending : Attending w past) (command : Command)
    (same : marks (Phomemo.marked past) (commandStart w command) = true →
      Phomemo.marked past = true) :
    Attending (w.accept command) (past ++ [commandStart w command]) where
  allocated := attending.allocated
  marked := by
    rw [marked_concat]
    exact fun isMarked => attending.marked (same isMarked)
  covered := attending.covered

/-- A command that may reconnect finds a session that has noted its use, a timer that will drop the
connection, or no connection. -/
theorem ensures_reconnecting {program : Py Result} {command : Command}
    (attending : Attending w past) (active : w.bridge.sessionActive = true)
    (reconnects : command.name.reconnects = true)
    (uses : Keeps rely (fun w _ => Using w) program) (armed : Keeps rely (Given Armed) program)
    (unlinked : ∀ {w past}, Unlinked w past → Ensures rely program Attends w past) :
    Ensures rely program Attends (w.accept command) (past ++ [commandStart w command]) := by
  apply ensures_given
  intro all
  have unnoted : marks (Phomemo.marked past) (commandStart w command) = Phomemo.marked past := by
    cases command <;> first | rfl | cases reconnects
  have begun := attending.accept command fun isMarked => unnoted ▸ isMarked
  by_cases used : w.session.usedLink = true
  · exact Using.ensures uses ⟨begun.allocated, active, used⟩
  · have unmarked : Phomemo.marked (past ++ [commandStart w command]) = false :=
      Bool.eq_false_of_not_eq_true fun isMarked => used (begun.marked isMarked).2
    by_cases connected : w.bridgeConnected = true
    · have unscheduled : w.bridge.holdScheduled = 0 := by
        by_contra scheduled
        have noted : Phomemo.marked past = true :=
          all.last reconnects (decide_eq_true (Nat.pos_of_ne_zero scheduled))
        exact used (attending.marked noted).2
      have isArmed : w.bridge.holdArmed = true := by
        rcases attending.covered connected with noted | isArmed | scheduled
        · exact absurd noted.2 used
        · exact isArmed
        · omega
      apply Armed.ensures armed
      refine ⟨begun.allocated, active, isArmed, unscheduled, unmarked, ?_⟩
      rw [handling_concat]
      exact reconnects
    · exact unlinked ⟨begun.allocated, active, unmarked, Bool.eq_false_of_not_eq_true connected⟩

theorem cmdClose (env : Env) (enabled : env.holdEnabled = true) (attending : Attending w past) :
    Ensures rely (Session.cmdClose env) Attends w past := by
  have closes : ∀ armed, (w.bridgeConnected = true → armed = true) → Attending
      (w.setBridge fun bridge => { bridge with holdArmed := armed })
      (past ++ [.closeAnswered]) := by
    intro armed isArmed
    refine ⟨attending.allocated, ?_, fun connected => .inr (.inl (isArmed connected))⟩
    rw [marked_concat]
    exact attending.marked
  apply Ensures.bind
  apply Ensures.modify_bind
  apply Ensures.read_bind
  apply Ensures.ite
  · intro _
    apply Ensures.modify
    apply Ensures.emit_bind
    exact fun _ => Ensures.pure fun _ => closes true fun _ => rfl
  · intro refused
    apply Ensures.pure
    apply Ensures.emit_bind
    exact fun _ => Ensures.pure fun _ => closes false fun connected =>
      absurd ⟨connected, enabled⟩ refused

/-- A disconnect takes down the connection whose timer it cancels. -/
theorem cmdDisconnect (allocated : w.Allocated) (active : w.bridge.sessionActive = true)
    (unmarked : Phomemo.marked past = false) :
    Ensures rely Session.cmdDisconnect Attends w past := by
  have done : ∀ {w past}, Unlinked w past →
      Ensures rely (pure [] : Py Result) Attends w past :=
    fun unlinked => Ensures.pure fun _ => unlinked.attending
  apply Ensures.modify_bind
  apply Ensures.bind
  apply Ensures.modify_bind
  apply Ensures.read_bind
  generalize leaving_eq : World.cancelHold _ = leaving
  have leavingAllocated : leaving.Allocated := by
    rw [← leaving_eq]
    exact allocated
  have leavingActive : leaving.bridge.sessionActive = true := by
    rw [← leaving_eq]
    exact active
  cases held : leaving.bridge.printer with
  | none =>
      apply Ensures.pure
      apply done
      refine ⟨leavingAllocated, leavingActive, unmarked, ?_⟩
      rw [World.bridgeConnected, held]
  | some p =>
      have link : leaving.bridgeConnected = leaving.isConnected p :=
        World.bridgeConnected_of_printer held
      apply Ensures.ite
      · intro linked
        have client : (leaving.printers p).transport.client.isSome = true := by
          simp only [World.isConnected, Transport.isConnected, Bool.and_eq_true] at linked
          exact linked.2
        have down : Unlinked (leaving.setConnected p false) past := by
          refine ⟨leavingAllocated, leavingActive, unmarked, ?_⟩
          have same : (leaving.setConnected p false).bridge.printer = some p := held
          rw [World.bridgeConnected, same]
          simp [World.isConnected, World.setConnected, World.setTransport_printers,
            Transport.isConnected]
        apply Ensures.read_bind
        apply Ensures.ite
        · intro _
          apply Ensures.modify_bind
          have waits : Keeps rely Unlinked Phomemo.tick := Unlinked.idle.tick
          apply Upholds.seq waits down
          · intro answer w past down
            have hungUp := down.awaits (World.awaited_hangUp p)
            apply Ensures.modify_bind
            cases answer.bleakError with
            | none =>
                apply Ensures.pure
                exact done hungUp
            | some text =>
                apply Ensures.emit_bind
                intro _
                apply Ensures.raise
                have failed := hungUp.append fun event member =>
                  List.mem_singleton.mp member ▸ .wire (.disconnectFailed p)
                exact ⟨fun _ => failed.attending, trivial⟩
          · exact fun _ _ _ unlinked _ => ⟨fun _ => unlinked.attending, trivial⟩
          · exact fun _ _ unlinked _ => unlinked.attending
        · exact fun absent => absurd client absent
      · intro unlinked
        apply Ensures.pure
        apply done
        refine ⟨leavingAllocated, leavingActive, unmarked, ?_⟩
        rw [link]
        exact Bool.eq_false_of_not_eq_true unlinked

theorem cmdPageEnd (env : Env) (attending : Attending w past)
    (active : w.bridge.sessionActive = true) :
    Ensures rely (Session.cmdPageEnd env) Attends w past := by
  apply ensures_cmdPageEnd
  · exact fun _ _ => ⟨fun _ => attending, trivial⟩
  · intro page p printable
    have uses : Using (w.setSession fun session => { session with usedLink := true }) :=
      ⟨attending.allocated, active, rfl⟩
    have prints : Keeps rely (fun w _ => Using w) (Session.printComplete env p page) :=
      @HandlerStable.printComplete _ _ _ [p] p (Using.handlers env) List.mem_cons_self page
    have cleared : ∀ {w past}, Using w →
        Attending (w.setSession fun session => { session with page := none }) past :=
      fun uses => Using.attending ⟨uses.1, uses.2⟩
    apply Upholds.ensures prints uses
    · exact fun _ _ _ uses _ => cleared uses
    · exact fun _ _ _ uses _ => ⟨fun _ => cleared uses, trivial⟩
    · exact fun _ _ uses _ => uses.attending

theorem handler (env : Env) (enabled : env.holdEnabled = true) (attending : Attending w past)
    (active : w.bridge.sessionActive = true) (command : Command) :
    Ensures rely (Session.handler env command) Attends (w.accept command)
      (past ++ [commandStart w command]) := by
  have uses : HandlerStable env rely fun _ w _ => Using w := Using.handlers env
  have armed : WaitStable env rely fun _ => Given Armed := Armed.waits env
  cases command with
  | discover timeout =>
      exact (attending.accept (.discover timeout) id).ensures ((probes env).cmdDiscover timeout)
  | «open» address model =>
      have noted : Using ((w.accept (.open address model)).setSession fun session =>
          { session with usedLink := true }) := ⟨attending.allocated, active, rfl⟩
      have opens : OpenStable env rely (fun _ w _ => Using w) (fun _ w _ => Using w)
          (fun w _ => Using w) (fun w _ => Using w) (fun _ => True) (fun _ _ => True)
          address model := Using.opens env address model
      have opened : Ensures rely (Session.cmdOpen env address model) Attends
          ((w.accept (.open address model)).setSession fun session =>
            { session with usedLink := true })
          (past ++ [commandStart w (.open address model)]) := by
        apply (opens.cmdOpen noted).mono
        · exact fun _ _ _ uses _ => uses.attending
        · exact fun _ _ _ uses => ⟨fun _ => uses.attending, trivial⟩
        · exact fun _ _ uses _ => uses.attending
      apply Ensures.modify_bind
      exact Ensures.of_modify_bind opened
  | close => exact (attending.accept .close id).cmdClose env enabled
  | disconnect =>
      have unmarked : Phomemo.marked (past ++ [commandStart w .disconnect]) = false := by
        rw [marked_concat]
        rfl
      have begun : (w.accept .disconnect).Allocated := attending.allocated
      exact cmdDisconnect begun active unmarked
  | status address =>
      apply attending.ensures_reconnecting active rfl
      · exact @WaitStable.cmdStatus _ _ _ [] uses.toWaitStable address
      · exact @WaitStable.cmdStatus _ _ _ [] armed address
      · intro w past unlinked
        apply Ensures.read_bind
        apply Ensures.ite
        · exact fun live =>
            absurd (unlinked.unlinked.symm.trans live.1) Bool.false_ne_true
        · exact fun _ => Ensures.pure fun _ => unlinked.attending
  | info =>
      apply attending.ensures_reconnecting active rfl
      · exact @WaitStable.cmdInfo _ _ _ [] uses.toWaitStable
      · exact @WaitStable.cmdInfo _ _ _ [] armed
      · intro w past unlinked
        apply Ensures.bind
        apply Ensures.bind
        exact unlinked.ensures_requirePrinter fun _ => ⟨fun _ => unlinked.attending, trivial⟩
  | autoOff minutes =>
      apply attending.ensures_reconnecting active rfl
      · exact @WaitStable.cmdAutoOff _ _ _ [] uses.toWaitStable minutes
      · exact @WaitStable.cmdAutoOff _ _ _ [] armed minutes
      · intro w past unlinked
        apply Ensures.bind
        apply Ensures.bind
        exact unlinked.ensures_requirePrinter fun _ => ⟨fun _ => unlinked.attending, trivial⟩
  | identify =>
      have identifies := @WaitStable.cmdIdentify _ _ _ [] uses.toWaitStable
      exact ensures_noted identifies attending.allocated active
  | testPage =>
      have prints := @WaitStable.cmdTestPage _ _ _ [] uses.toWaitStable
      exact ensures_noted prints attending.allocated active
  | waitReady settle =>
      apply attending.ensures_reconnecting active rfl
      · exact @WaitStable.cmdWaitReady _ _ _ [] uses.toWaitStable settle
      · exact @WaitStable.cmdWaitReady _ _ _ [] armed settle
      · intro w past unlinked
        apply unlinked.ensures
        apply Upholds.bind (keeps_ofExcept _)
        intro settle
        exact Upholds.bind (Unlinked.waitReady env settle .noSheet) fun _ => Upholds.pure _
  | pageBegin page =>
      exact (attending.accept (.pageBegin page) id).ensures (Attending.idle.cmdPageBegin page)
  | lines count payload =>
      exact (attending.accept (.lines count payload) id).ensures
        (Attending.idle.cmdLines count payload)
  | pageEnd => exact (attending.accept .pageEnd id).cmdPageEnd env active
  | eject =>
      have ejects := @WaitStable.cmdEject _ _ _ [] uses.toWaitStable
      exact ensures_noted ejects attending.allocated active

/-- The reply of a command tells nothing about its use of the connection. -/
theorem answers (attending : Given Attending w past) (command : Command) (reply : Reply) :
    Ensures rely (answer command reply)
      ⟨fun _ => Given Attending, fun _ _ _ => False, Given Attending⟩ w past := by
  have replied : Given Attending w (past ++ [.replied command.name reply]) := by
    intro all
    have before := attending all.of_concat
    refine ⟨before.allocated, ?_, before.covered⟩
    rw [marked_concat]
    exact before.marked
  have idles : IdleStable rely (Given Attending) := Attending.idle.given
  apply (idles.ensures_answer replied).mono
  · rintro _ _ _ ⟨-, w, given, rfl⟩ all
    have before := given all
    exact ⟨before.allocated, before.marked, before.covered⟩
  · exact fun _ _ _ => id
  · exact fun _ _ => id

theorem runCommand (env : Env) (enabled : env.holdEnabled = true)
    (attending : Given Attending w past) (active : w.bridge.sessionActive = true)
    (command : Command) :
    Ensures rely (Session.runCommand env command)
      ⟨fun _ => Given Attending, fun _ _ _ => False, Given Attending⟩ w past := by
  apply ensures_runCommand
  intro _
  have handled : Ensures rely (Session.handler env command) Attends (w.accept command)
      (past ++ [commandStart w command]) := by
    apply ensures_given
    exact fun all => (attending all.of_concat).handler env enabled active command
  apply handled.mono
  · exact fun _ _ _ given => answers given command _
  · exact fun _ _ _ given => answers given.1 command _
  · exact fun _ _ => id

/-! ### Sessions -/

/-- A new session has not noted its use. -/
theorem begins : Keeps rely (Given Attending) Session.begin := by
  apply Upholds.modify
  intro w past given
  split
  · exact given
  · next inactive =>
      intro all
      have before := given all
      refine ⟨before.allocated, fun isMarked => absurd (before.marked isMarked).1 inactive, ?_⟩
      intro connected
      rcases before.covered connected with noted | held
      · exact absurd noted.1 inactive
      · exact .inr held

/-- The end of a session leaves the connection it used to the timer. -/
theorem finish (env : Env) (enabled : env.holdEnabled = true) :
    Keeps rely (Given Attending) (Session.finish env) := by
  intro w past given
  apply Ensures.read_bind
  apply Ensures.ite
  · intro _
    apply Ensures.modify_bind
    apply Ensures.emit_bind
    intro _
    have ended : ∀ {armed}, Throughout Attended (past ++ [.sessionEnded]) →
        (w.bridgeConnected = true → armed = true ∨ 0 < w.bridge.holdScheduled) →
        Attending (w.setBridge fun bridge =>
          { bridge with sessionActive := false, holdArmed := armed })
          (past ++ [.sessionEnded]) := by
      intro armed all held
      refine ⟨(given all.of_concat).allocated, ?_, fun connected => .inr (held connected)⟩
      intro isMarked
      rw [marked_concat] at isMarked
      cases isMarked
    apply Ensures.ite
    · intro _
      apply Ensures.modify_bind
      apply Ensures.read_bind
      apply Ensures.ite
      · exact fun _ => Ensures.modify fun all => ended all fun _ => .inl rfl
      · intro refused
        exact Ensures.pure fun all => ended all fun connected =>
          absurd ⟨connected, enabled⟩ refused
    · intro unused
      apply Ensures.pure
      intro all
      apply ended all
      intro connected
      rcases (given all.of_concat).covered connected with noted | held
      · exact absurd noted.2 unused
      · exact held
  · exact fun _ => Ensures.pure given

theorem move (env : Env) (enabled : env.holdEnabled = true) (given : Given Attending w past)
    (move : Session.Move) :
    Ensures rely (Session.move env move)
      ⟨fun _ => Given Attending, fun _ => Given Attending, Given Attending⟩ w past := by
  have keeps : ∀ {program : Py Unit}, Keeps rely (Given Attending) program →
      Ensures rely program
        ⟨fun _ => Given Attending, fun _ => Given Attending, Given Attending⟩ w past :=
    fun keeps => Upholds.ensures keeps given (fun _ _ _ => id) (fun _ _ _ given _ => given)
      fun _ _ => id
  cases move with
  | begins => exact keeps begins
  | ends => exact keeps (finish env enabled)
  | idle => exact keeps Attending.idle.given.pause
  | command command =>
      apply Ensures.read_bind
      apply Ensures.ite
      · intro active
        apply Ensures.seq (runCommand env enabled given active command)
        · exact fun _ _ _ given => Ensures.pure given
        · exact fun _ _ _ => False.elim
        · exact fun _ _ => id
      · exact fun _ => Ensures.pure given

end Attending

/-- In a run where the bridge connects, and a hold expires or starts its disconnect during a command
that may reconnect, only in sessions that have noted that they use the connection, a connection no
session uses will be dropped by a hold. -/
theorem unused_connection_held (env : Env) (enabled : env.holdEnabled = true) (w : World)
    (fresh : w.bridge = {}) (moves : List Session.Move) (script : List Tick)
    (attended : Throughout Attended (Session.runMoves env moves w script).trace) :
    (Session.runMoves env moves w script).ending.state.bridge.sessionActive = false →
      (Session.runMoves env moves w script).ending.state.bridgeConnected = true →
        (Session.runMoves env moves w script).ending.state.bridge.holdArmed = true ∨
          0 < (Session.runMoves env moves w script).ending.state.bridge.holdScheduled := by
  have start : Given Attending w [] := by
    intro _
    have printerless : w.bridge.printer = none := by rw [fresh]
    refine ⟨?_, (fun isMarked => by cases isMarked), ?_⟩
    · intro p held
      rw [printerless] at held
      cases held
    · intro connected
      rw [World.bridgeConnected, printerless] at connected
      cases connected
  have given := @runMoves_always env (fun _ => True) _ _
    (fun _ _ move given => Attending.move env enabled given move) (fun _ _ => id) moves w start
    script fun _ _ => trivial
  intro inactive connected
  rcases (given attended).covered connected with noted | held
  · exact absurd (noted.1.symm.trans inactive) Bool.noConfusion
  · exact held

/-! ## A connection that no timer will drop -/

/-- A session prints nothing after its `open`. -/
def openedAndLeft : Run PyExc World Tick TraceEvent Unit :=
  Session.runMoves stripEnv [.begins, .command (.open none none), .ends] freshWorld
    [scanned, {}, {}, {}, {}, {}, {}]

/-- A session only waits for a sheet, which is seated. -/
def onlyWaited : Run PyExc World Tick TraceEvent Unit :=
  Session.runMoves stripEnv [.begins, .command (.waitReady none), .ends] freshWorld
    [{}, scanned, {}, {}, {}, {}, { incidents := [lidClosed] }, {}, { incidents := [sheetPresent] },
      {}]

/-- A session waits for a sheet after a disconnect. -/
def waitedAgain : Run PyExc World Tick TraceEvent Unit :=
  Session.runMoves stripEnv
    [.begins, .command (.open none none), .command .disconnect, .command (.waitReady none), .ends]
    freshWorld
    [scanned, {}, {}, {}, {}, {}, {}, {}, {}, scanned, {}, {}, { incidents := [lidClosed] }, {},
      { incidents := [sheetPresent] }, {}]

theorem unused_connection_held_strip :
    openedAndLeft.ending.state.bridge.holdArmed = true ∨
      0 < openedAndLeft.ending.state.bridge.holdScheduled := by
  have attended : Throughout Attended openedAndLeft.trace := by decide +kernel
  have inactive : openedAndLeft.ending.state.bridge.sessionActive = false := by decide +kernel
  have connected : openedAndLeft.ending.state.bridgeConnected = true := by decide +kernel
  unfold openedAndLeft at attended inactive connected ⊢
  exact unused_connection_held stripEnv rfl freshWorld rfl _ _ attended inactive connected

/-- The session has ended and no timer runs, yet the bridge is connected. -/
def LeftConnected (w : World) : Prop :=
  w.bridge.sessionActive = false ∧ w.bridgeConnected = true ∧ w.bridge.holdArmed = false ∧
    w.bridge.holdScheduled = 0

instance : DecidablePred LeftConnected := fun _ => inferInstanceAs (Decidable (_ ∧ _))

theorem unused_connection_kept :
    LeftConnected onlyWaited.ending.state ∧ LeftConnected waitedAgain.ending.state := by
  decide +kernel

end Phomemo
