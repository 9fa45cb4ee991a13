import Phomemo.World

/-!
# What an await can change

The callbacks and tasks that run while a command awaits reach only part of the state: they may
take a link down, set flags of the listeners, set the abort flag, and move the idle timer on.
Everything else is as it was when the await returns.
-/

namespace Phomemo

open Async

/-- A transport a link loss or a hold's disconnect may leave behind. -/
structure Transport.Sagged (before after : Transport) : Prop where
  profile : after.profile = before.profile
  client : after.client = before.client ∧ after.effectiveChunkBytes = before.effectiveChunkBytes ∨
    after.client = none
  connected : after.connected = true → before.connected = true

namespace Transport.Sagged

theorem refl (transport : Transport) : transport.Sagged transport :=
  ⟨rfl, .inl ⟨rfl, rfl⟩, id⟩

theorem trans {first second third : Transport} (earlier : first.Sagged second)
    (later : second.Sagged third) : first.Sagged third where
  profile := later.profile.trans earlier.profile
  client := by
    rcases later.client with ⟨client, chunk⟩ | gone
    · rcases earlier.client with ⟨client', chunk'⟩ | gone'
      · exact .inl ⟨client.trans client', chunk.trans chunk'⟩
      · exact .inr (client.trans gone')
    · exact .inr gone
  connected := fun connected => earlier.connected (later.connected connected)

theorem isConnected {before after : Transport} (sagged : before.Sagged after)
    (connected : after.isConnected = true) : before.isConnected = true := by
  simp only [Transport.isConnected, Bool.and_eq_true] at connected ⊢
  refine ⟨sagged.connected connected.1, ?_⟩
  rcases sagged.client with ⟨client, -⟩ | gone
  · rw [← client]
    exact connected.2
  · simp [gone] at connected

end Transport.Sagged

/-- What the rest of the process keeps while a command awaits. -/
structure World.Awaited (before after : World) : Prop where
  printer : after.bridge.printer = before.bridge.printer
  modelExplicit : after.bridge.modelExplicit = before.bridge.modelExplicit
  sessionActive : after.bridge.sessionActive = before.bridge.sessionActive
  nextPrinter : after.nextPrinter = before.nextPrinter
  pendingCmd : after.session.pendingCmd = before.session.pendingCmd
  page : after.session.page = before.session.page
  profile : ∀ p, (after.printers p).profile = (before.printers p).profile
  address : ∀ p, (after.printers p).address = (before.printers p).address
  transport : ∀ p, (before.printers p).transport.Sagged (after.printers p).transport

namespace World

variable {w before after : World}

theorem Awaited.refl (w : World) : w.Awaited w :=
  ⟨rfl, rfl, rfl, rfl, rfl, rfl, fun _ => rfl, fun _ => rfl, fun _ => .refl _⟩

theorem Awaited.trans {first second third : World} (earlier : first.Awaited second)
    (later : second.Awaited third) : first.Awaited third where
  printer := later.printer.trans earlier.printer
  modelExplicit := later.modelExplicit.trans earlier.modelExplicit
  sessionActive := later.sessionActive.trans earlier.sessionActive
  nextPrinter := later.nextPrinter.trans earlier.nextPrinter
  pendingCmd := later.pendingCmd.trans earlier.pendingCmd
  page := later.page.trans earlier.page
  profile := fun p => (later.profile p).trans (earlier.profile p)
  address := fun p => (later.address p).trans (earlier.address p)
  transport := fun p => (earlier.transport p).trans (later.transport p)

theorem Awaited.isConnected (awaited : before.Awaited after) {p : PrinterId}
    (connected : after.isConnected p = true) : before.isConnected p = true :=
  (awaited.transport p).isConnected connected

theorem setPrinter_printers (p q : PrinterId) (change : Printer → Printer) :
    (w.setPrinter p change).printers q =
      if q = p then change (w.printers p) else w.printers q := by
  simp [setPrinter, Function.update_apply]

/-- A change of a transport leaves everything else of the printer objects. -/
theorem setTransport_printers (p q : PrinterId) (change : Transport → Transport) :
    (w.setTransport p change).printers q =
      { w.printers q with
        transport := if q = p then change (w.printers q).transport
          else (w.printers q).transport } := by
  unfold setTransport
  rw [setPrinter_printers]
  split
  · subst q
    rfl
  · rfl

@[simp]
theorem setTransport_profile (p q : PrinterId) (change : Transport → Transport) :
    ((w.setTransport p change).printers q).profile = (w.printers q).profile := by
  rw [setTransport_printers]

@[simp]
theorem setTransport_address (p q : PrinterId) (change : Transport → Transport) :
    ((w.setTransport p change).printers q).address = (w.printers q).address := by
  rw [setTransport_printers]

/-- A change of one printer object that keeps what it is and at most takes its link down. -/
theorem awaited_setPrinter (p : PrinterId) {change : Printer → Printer}
    (profile : (change (w.printers p)).profile = (w.printers p).profile)
    (address : (change (w.printers p)).address = (w.printers p).address)
    (transport : (w.printers p).transport.Sagged (change (w.printers p)).transport) :
    w.Awaited (w.setPrinter p change) := by
  refine ⟨rfl, rfl, rfl, rfl, rfl, rfl, ?_, ?_, ?_⟩ <;> intro q <;>
    rw [setPrinter_printers] <;> split
  · subst q
    exact profile
  · rfl
  · subst q
    exact address
  · rfl
  · subst q
    exact transport
  · exact .refl _

theorem awaited_setConnected (p : PrinterId) : w.Awaited (w.setConnected p false) := by
  unfold setConnected setTransport
  apply awaited_setPrinter p
  · rfl
  · rfl
  · exact ⟨rfl, .inl ⟨rfl, rfl⟩, fun connected => Bool.noConfusion connected⟩

theorem awaited_setListeners (p : PrinterId) (change : Listeners → Listeners) :
    w.Awaited (w.setListeners p change) := by
  apply awaited_setPrinter p
  · rfl
  · rfl
  · exact .refl _

theorem awaited_hangUp (p : PrinterId) : w.Awaited (w.hangUp p) := by
  unfold hangUp setTransport
  apply awaited_setPrinter p
  · rfl
  · rfl
  · exact ⟨rfl, .inr rfl, fun connected => Bool.noConfusion connected⟩

theorem awaited_setBridge {change : Bridge → Bridge}
    (printer : (change w.bridge).printer = w.bridge.printer)
    (modelExplicit : (change w.bridge).modelExplicit = w.bridge.modelExplicit)
    (sessionActive : (change w.bridge).sessionActive = w.bridge.sessionActive) :
    w.Awaited (w.setBridge change) :=
  ⟨printer, modelExplicit, sessionActive, rfl, rfl, rfl, fun _ => rfl, fun _ => rfl,
    fun _ => .refl _⟩

theorem awaited_startHoldTask : w.Awaited w.startHoldTask.1 := by
  have cancelled : w.Awaited w.cancelHold := awaited_setBridge rfl rfl rfl
  unfold startHoldTask
  simp only
  split
  · exact cancelled
  · split
    · dsimp only
      apply cancelled.trans
      apply (awaited_setConnected _).trans
      apply awaited_setBridge <;> rfl
    · exact cancelled

theorem awaited_happen (incident : Incident) : w.Awaited (w.happen incident).1 := by
  cases incident with
  | abort => exact ⟨rfl, rfl, rfl, rfl, rfl, rfl, fun _ => rfl, fun _ => rfl, fun _ => .refl _⟩
  | dropped p => exact awaited_setConnected p
  | notified p events => exact awaited_setListeners p fun listeners => listeners.notify events
  | holdExpires =>
      simp only [happen]
      split
      · dsimp only
        apply awaited_setBridge <;> rfl
      · exact .refl w
  | holdStarts =>
      simp only [happen]
      split
      · exact .refl w
      · apply Awaited.trans _ awaited_startHoldTask
        apply awaited_setBridge <;> rfl
  | holdEnds p =>
      simp only [happen]
      split
      · dsimp only
        apply (awaited_hangUp p).trans
        apply awaited_setBridge <;> rfl
      · exact .refl w

theorem awaited_happenAll (incidents : List Incident) : w.Awaited (w.happenAll incidents).1 := by
  induction incidents generalizing w with
  | nil => exact .refl w
  | cons incident incidents ih => exact (awaited_happen incident).trans ih

/-- The state when an await returns. -/
def awaken (w : World) (answer : Tick) : World :=
  let next := (w.happenAll answer.incidents).1
  { next with clock := next.clock + answer.elapsed }

/-- What an await records. -/
def awakening (w : World) (answer : Tick) : List TraceEvent :=
  .tick answer :: (w.happenAll answer.incidents).2

theorem awaited_awaken (answer : Tick) : w.Awaited (w.awaken answer) := by
  have next := awaited_happenAll (w := w) answer.incidents
  exact ⟨next.printer, next.modelExplicit, next.sessionActive, next.nextPrinter,
    next.pendingCmd, next.page, next.profile, next.address, next.transport⟩

end World

/-- The events incidents record. -/
inductive TraceEvent.OfIncident : TraceEvent → Prop where
  | peerDropped (p : PrinterId) : OfIncident (.peerDropped p)
  | holdExpired (pending : Option CommandName) : OfIncident (.holdExpired pending)
  | holdDropped (pending : Option CommandName) : OfIncident (.holdDropped pending)

/-- The events an await records. -/
inductive TraceEvent.OfAwait : TraceEvent → Prop where
  | tick (answer : Tick) : OfAwait (.tick answer)
  | peerDropped (p : PrinterId) : OfAwait (.peerDropped p)
  | holdExpired (pending : Option CommandName) : OfAwait (.holdExpired pending)
  | holdDropped (pending : Option CommandName) : OfAwait (.holdDropped pending)

theorem TraceEvent.OfIncident.await {event : TraceEvent} (incident : event.OfIncident) :
    event.OfAwait := by
  cases incident with
  | peerDropped p => exact .peerDropped p
  | holdExpired pending => exact .holdExpired pending
  | holdDropped pending => exact .holdDropped pending

namespace World

variable {w : World}

theorem startHoldTask_events : ∀ event ∈ w.startHoldTask.2,
    event = .holdDropped w.session.pendingCmd := by
  unfold startHoldTask
  simp only
  split
  · simp
  · split
    · simp [cancelHold, setBridge]
    · simp

theorem happen_events (incident : Incident) :
    ∀ event ∈ (w.happen incident).2, event.OfIncident := by
  cases incident with
  | abort => simp [happen]
  | dropped p =>
      intro event member
      obtain rfl := List.mem_singleton.mp member
      exact .peerDropped p
  | notified p events => simp [happen]
  | holdExpires =>
      simp only [happen]
      split
      · intro event member
        obtain rfl := List.mem_singleton.mp member
        exact .holdExpired _
      · simp
  | holdStarts =>
      simp only [happen]
      split
      · simp
      · intro event member
        rw [startHoldTask_events event member]
        exact .holdDropped _
  | holdEnds p =>
      simp only [happen]
      split
      · intro event member
        split at member
        · obtain rfl := List.mem_singleton.mp member
          exact .holdDropped _
        · simp at member
      · simp

theorem happenAll_events (incidents : List Incident) :
    ∀ event ∈ (w.happenAll incidents).2, event.OfIncident := by
  induction incidents generalizing w with
  | nil => simp [happenAll]
  | cons incident incidents ih =>
      intro event member
      rcases List.mem_append.mp member with now | later
      · exact happen_events incident event now
      · exact ih event later

/-- Only an abort sets the abort flag. -/
theorem happen_abort (incident : Incident) :
    (w.happen incident).1.session.abort = (w.session.abort || decide (incident = .abort)) := by
  cases incident with
  | abort => simp [happen, setSession]
  | dropped p => simp [happen, setConnected, setTransport, setPrinter]
  | notified p events => simp [happen, setListeners, setPrinter]
  | holdExpires =>
      simp only [happen]
      split <;> simp [setBridge]
  | holdStarts =>
      simp only [happen]
      split
      · simp
      · simp only [startHoldTask]
        split
        · simp [cancelHold, setBridge]
        · split <;> simp [cancelHold, setBridge, setConnected, setTransport, setPrinter]
  | holdEnds p =>
      simp only [happen]
      split <;> simp [setBridge, hangUp, setTransport, setPrinter]

theorem happenAll_abort (incidents : List Incident) :
    (w.happenAll incidents).1.session.abort =
      (w.session.abort || decide (.abort ∈ incidents)) := by
  induction incidents generalizing w with
  | nil => simp [happenAll]
  | cons incident incidents ih =>
      change ((w.happen incident).1.happenAll incidents).1.session.abort = _
      rw [ih, happen_abort, Bool.or_assoc]
      simp [eq_comm]

theorem awaken_abort (answer : Tick) :
    (w.awaken answer).session.abort =
      (w.session.abort || decide (.abort ∈ answer.incidents)) :=
  happenAll_abort answer.incidents

theorem awakening_events (answer : Tick) :
    ∀ event ∈ w.awakening answer, event.OfAwait := by
  intro event member
  rcases List.mem_cons.mp member with rfl | later
  · exact .tick answer
  · exact (happenAll_events _ event later).await

/-- What one incident keeps, a whole await keeps. -/
theorem happenAll_induction {rely : TraceEvent → Prop} {inv : World → List TraceEvent → Prop}
    {allowed : Incident → Prop}
    (step : ∀ w past incident, allowed incident → inv w past →
      (∀ event ∈ (w.happen incident).2, rely event) →
      inv (w.happen incident).1 (past ++ (w.happen incident).2))
    {incidents : List Incident} (permitted : ∀ incident ∈ incidents, allowed incident)
    {past : List TraceEvent} (holds : inv w past)
    (relied : ∀ event ∈ (w.happenAll incidents).2, rely event) :
    inv (w.happenAll incidents).1 (past ++ (w.happenAll incidents).2) := by
  induction incidents generalizing w past with
  | nil => simpa [happenAll] using holds
  | cons incident incidents ih =>
      have here := step w past incident (permitted incident List.mem_cons_self) holds
        fun event member => relied event (List.mem_append_left _ member)
      have rest := ih (fun other member => permitted other (List.mem_cons_of_mem _ member)) here
        fun event member => relied event (List.mem_append_right _ member)
      rw [List.append_assoc] at rest
      exact rest

/-- What the record of an await, one incident and the clock keep, an await keeps. -/
theorem awaken_induction {rely : TraceEvent → Prop} {inv : World → List TraceEvent → Prop}
    (begun : ∀ w past answer, inv w past → inv w (past ++ [.tick answer]))
    (step : ∀ w past incident, inv w past → (∀ event ∈ (w.happen incident).2, rely event) →
      inv (w.happen incident).1 (past ++ (w.happen incident).2))
    (clock : ∀ w past time, inv w past → inv { w with clock := time } past)
    {answer : Tick} {past : List TraceEvent} (holds : inv w past)
    (relied : ∀ event ∈ w.awakening answer, rely event) :
    inv (w.awaken answer) (past ++ w.awakening answer) := by
  have happened := @happenAll_induction w rely inv (fun _ => True)
    (fun w past incident _ => step w past incident) answer.incidents (fun _ _ => trivial)
    (past ++ [.tick answer]) (begun w past answer holds)
    fun event member => relied event (List.mem_cons_of_mem _ member)
  rw [List.append_assoc] at happened
  exact clock _ _ _ happened

end World

/-- An await: the answer is arbitrary, and the state and the trace are those of the incidents. -/
theorem ensures_tick {rely : TraceEvent → Prop} {post : Post PyExc World TraceEvent Tick}
    {w : World} {past : List TraceEvent} (waits : post.waiting w past)
    (answers : ∀ answer, (∀ event ∈ w.awakening answer, rely event) →
      post.returned answer (w.awaken answer) (past ++ w.awakening answer)) :
    Ensures rely tick post w past := by
  apply Ensures.bind
  refine Ensures.suspend (by exact waits) ?_
  intro answer
  apply Ensures.bind
  apply Ensures.read
  apply Ensures.bind
  apply Ensures.modify
  apply Ensures.bind
  apply Ensures.emitAll
  intro relied
  exact Ensures.pure (answers answer relied)

/-- Sequencing after an await. -/
theorem ensures_tick_bind {α : Type} {rely : TraceEvent → Prop}
    {post : Post PyExc World TraceEvent α} {w : World} {past : List TraceEvent}
    {next : Tick → Py α} (waits : post.waiting w past)
    (answers : ∀ answer, (∀ event ∈ w.awakening answer, rely event) →
      Ensures rely (next answer) post (w.awaken answer) (past ++ w.awakening answer)) :
    Ensures rely (tick >>= next) post w past :=
  Ensures.bind (ensures_tick waits answers)

end Phomemo
