import Phomemo.Chunks
import Phomemo.Upkeep.Wire
import Phomemo.Watches

/-!
# The lid during a print

The lid is looked at between two chunks, as long as bands are left to send, and asked for once
after the motor stop.  Nothing sees a lid that opens behind the last look and is closed again
before the question.
-/

namespace Phomemo

open Async Coroutine

/-! ## Awaits of a history -/

/-- The await an event records. -/
def TraceEvent.await? : TraceEvent → Option Tick
  | .tick answer => some answer
  | _ => none

/-- The answered awaits, in order. -/
def awaits (past : List TraceEvent) : List Tick := past.filterMap TraceEvent.await?

theorem awaits_append (past later : List TraceEvent) :
    awaits (past ++ later) = awaits past ++ awaits later :=
  List.filterMap_append

theorem awaits_awakening (w : World) (answer : Tick) : awaits (w.awakening answer) = [answer] := by
  have none : awaits (w.happenAll answer.incidents).2 = [] := by
    refine List.filterMap_eq_nil_iff.mpr fun event member => ?_
    cases World.happenAll_events answer.incidents event member <;> rfl
  change answer :: awaits (w.happenAll answer.incidents).2 = _
  rw [none]

theorem arrivals_eq_awaits (p : PrinterId) (past : List TraceEvent) :
    arrivals p past = (awaits past).flatMap fun answer => answer.arrivals p := by
  induction past with
  | nil => rfl
  | cons event past ih =>
      rw [arrivals, List.flatMap_cons, ← arrivals, ih, awaits]
      cases event with
      | tick answer => rfl
      | _ => rfl

/-- The events of the first awaits. -/
def earlyArrivals (p : PrinterId) (count : Nat) (past : List TraceEvent) : List DeviceEvent :=
  ((awaits past).take count).flatMap fun answer => answer.arrivals p

theorem earlyArrivals_begins (p : PrinterId) (count : Nat) (past : List TraceEvent) :
    earlyArrivals p count past <+: arrivals p past := by
  rw [arrivals_eq_awaits]
  refine ⟨((awaits past).drop count).flatMap fun answer => answer.arrivals p, ?_⟩
  rw [earlyArrivals, ← List.flatMap_append, List.take_append_drop]

/-! ## The motor stop -/

/-- The events before the motor stop that a waiter registered behind these takes. -/
def beforeStop : List Waiter → List DeviceEvent → List DeviceEvent
  | _, [] => []
  | waiters, event :: events =>
      if event.isInstance .motorStopEvent = true ∧ ∀ waiter ∈ waiters, ¬waiter.Takes event then []
      else event :: beforeStop (resolveFirst event waiters) events

theorem beforeStop_begins (waiters : List Waiter) (events : List DeviceEvent) :
    beforeStop waiters events <+: events := by
  induction events generalizing waiters with
  | nil => exact List.prefix_rfl
  | cons event events ih =>
      rw [beforeStop]
      split
      · exact List.nil_prefix
      · exact (List.prefix_cons_inj event).mpr (ih _)

/-- Behind them comes the motor stop, once it was delivered. -/
theorem beforeStop_split {waiters : List Waiter} {events : List DeviceEvent}
    (delivered : Delivered .motorStopEvent waiters events) :
    ∃ stop after, events = beforeStop waiters events ++ stop :: after ∧
      stop.isInstance .motorStopEvent = true := by
  induction events generalizing waiters with
  | nil => exact absurd delivered (not_delivered_nil _ _)
  | cons event events ih =>
      rw [beforeStop]
      split
      · rename_i stops
        exact ⟨event, events, rfl, stops.1⟩
      · rename_i other
        obtain ⟨stop, after, split, isStop⟩ := ih ((delivered_cons.mp delivered).resolve_left other)
        exact ⟨stop, after, congrArg (event :: ·) split, isStop⟩

theorem Delivered.append {eventType : EventClass} {waiters : List Waiter}
    {events : List DeviceEvent} (delivered : Delivered eventType waiters events)
    (later : List DeviceEvent) : Delivered eventType waiters (events ++ later) := by
  obtain ⟨before, event, after, rfl, isClass, untaken⟩ := delivered
  exact ⟨before, event, after ++ later, by simp, isClass, untaken⟩

/-! ## The looks between the chunks -/

namespace Printer

/-- The last chunk before which a transfer looks at the lid: the one that ends the raster. -/
def lastLook (stream : Bytes) (bands : List Band) (size : Nat) : Nat :=
  (tailStart stream bands - 1) / size

end Printer

/-- The awaits before the last look brought no open lid. -/
structure Unopened (p : PrinterId) (look : Nat) (past : List TraceEvent) : Prop where
  behind : look < (awaits past).length
  none : ∀ event ∈ earlyArrivals p look past, event.lidOpens = false

theorem Unopened.append {p : PrinterId} {look : Nat} {past : List TraceEvent}
    (unopened : Unopened p look past) (later : List TraceEvent) :
    Unopened p look (past ++ later) := by
  constructor
  · rw [awaits_append, List.length_append]
    exact Nat.lt_add_right _ unopened.behind
  · rw [earlyArrivals, awaits_append, List.take_append_of_le_length unopened.behind.le]
    exact unopened.none

theorem World.setRowsSent_listeners (w : World) (p : PrinterId) (rows : Nat) :
    ((w.setRowsSent p rows).printers p).listeners = (w.printers p).listeners := by
  rw [setRowsSent, setPrinter_printers, if_pos rfl]

/-- The listeners of a job: the waiter has taken what came for it, the callback has seen all. -/
structure Heard (p : PrinterId) (slot : Nat) (waiters : List Waiter) (w : World)
    (past : List TraceEvent) : Prop where
  resolved : w.waiters p = resolveAll (waiters ++ [⟨.motorStopEvent, none⟩]) (arrivals p past)
  listens : ∃ absent, Listens p slot
    (.print absent ((arrivals p past).any DeviceEvent.lidOpens)) w

namespace Heard

variable {p : PrinterId} {slot : Nat} {waiters : List Waiter} {w : World}
  {past : List TraceEvent}

theorem awaken (heard : Heard p slot waiters w past) (answer : Tick) :
    Heard p slot waiters (w.awaken answer) (past ++ w.awakening answer) := by
  obtain ⟨resolved, absent, listens⟩ := heard
  constructor
  · rw [awaken_waiters, resolved, arrivals_append, arrivals_awakening]
    simp only [resolveAll, List.foldl_append]
  · have called := listens.awaken answer
    rw [Watch.calls_print] at called
    rw [arrivals_append, arrivals_awakening, List.any_append]
    exact ⟨_, called⟩

/-- Events that are no awaits. -/
theorem record (heard : Heard p slot waiters w past) {events : List TraceEvent}
    (silent : arrivals p events = []) : Heard p slot waiters w (past ++ events) := by
  have same : arrivals p (past ++ events) = arrivals p past := by
    rw [arrivals_append, silent, List.append_nil]
  obtain ⟨resolved, absent, listens⟩ := heard
  exact ⟨by rw [same]; exact resolved, absent, by rw [same]; exact listens⟩

theorem move {after : World} (heard : Heard p slot waiters w past)
    (same : (after.printers p).listeners = (w.printers p).listeners) :
    Heard p slot waiters after past := by
  obtain ⟨resolved, absent, listens⟩ := heard
  refine ⟨?_, absent, ?_⟩
  · rw [World.waiters, same]
    exact resolved
  · unfold Listens at listens ⊢
    rw [same]
    exact listens

/-- The waiter has its event when one was delivered to it. -/
theorem stopped_iff (heard : Heard p slot waiters w past) :
    ((w.printers p).listeners.waiters[waiters.length]?.bind Waiter.result).isSome = true ↔
      Delivered .motorStopEvent waiters (arrivals p past) := by
  obtain ⟨result, resolved, -, isSome⟩ :=
    resolveAll_pending (arrivals p past) waiters .motorStopEvent
  have place : (w.printers p).listeners.waiters[waiters.length]? =
      some ⟨.motorStopEvent, result⟩ := by
    change (w.waiters p)[waiters.length]? = _
    rw [heard.resolved, resolved, ← resolveAll_length (arrivals p past) waiters]
    exact List.getElem?_concat_length
  rw [place, ← isSome]
  rfl

end Heard

/-- Where a transfer stands between two chunks. -/
structure Looking (p : PrinterId) (slot : Nat) (waiters : List Waiter) (stream : Bytes)
    (size look : Nat) (progress : Nat × Nat) (w : World) (past : List TraceEvent) : Prop extends
    Heard p slot waiters w past where
  count : (awaits past).length = progress.2
  offset : progress.1 = Printer.offsetAt stream size progress.2
  passed : look < progress.2 → Unopened p look past

/-- What is known once the motor stop has come. -/
structure Attested (p : PrinterId) (waiters : List Waiter) (look : Nat) (past : List TraceEvent) :
    Prop extends Unopened p look past where
  stopped : Delivered .motorStopEvent waiters (arrivals p past)

theorem Attested.append {p : PrinterId} {waiters : List Waiter} {look : Nat}
    {past : List TraceEvent} (attested : Attested p waiters look past) (later : List TraceEvent) :
    Attested p waiters look (past ++ later) := by
  refine ⟨attested.toUnopened.append later, ?_⟩
  rw [arrivals_append]
  exact attested.stopped.append _

section Print

variable {p : PrinterId} {slot : Nat} {waiters : List Waiter} {w : World}
  {past : List TraceEvent} {stream : Bytes} {bands : List Band} {size look : Nat}

/-- A raise is no return. -/
theorem ensures_raising {α : Type} {first : Py Unit} {error : PyExc}
    {returned : α → World → List TraceEvent → Prop} :
    Ensures (fun _ => True) (first >>= fun _ => (raise error : Py α))
      ⟨returned, fun _ _ _ => True, fun _ _ => True⟩ w past :=
  Ensures.bind (Ensures.of_forall (fun _ _ _ => Ensures.raise trivial) (fun _ _ _ => trivial)
    fun _ _ => trivial)

/-- A chunk that is sent, with its report. -/
theorem Looking.ensures_chunk {offset sent : Nat}
    (looking : Looking p slot waiters stream size look (offset, sent) w past)
    (unflagged : sent = look → (arrivals p past).any DeviceEvent.lidOpens = false)
    (rows : Nat) {report : Py Unit} (immediate : Immediate report) :
    Ensures (fun _ => True) (do
        BleTransport.write p ((stream.drop offset).take size)
        modify fun w => w.setRowsSent p rows
        handle report fun _ => pure ()
        return .inl (offset + ((stream.drop offset).take size).length, sent + 1) :
          Py ((Nat × Nat) ⊕ Unit))
      ⟨fun step w past => ∃ progress, step = .inl progress ∧
          Looking p slot waiters stream size look progress w past,
        fun _ _ _ => True, fun _ _ => True⟩ w past := by
  have advanced : offset + ((stream.drop offset).take size).length =
      Printer.offsetAt stream size (sent + 1) := by
    obtain rfl : offset = Printer.offsetAt stream size sent := looking.offset
    exact offsetAt_succ stream size sent
  have count : (awaits past).length = sent := looking.count
  apply Ensures.bind
  apply BleTransport.ensures_write
  · exact fun _ => trivial
  · exact fun _ _ _ => trivial
  · exact fun _ _ => trivial
  · intro client _ _ _
    refine ⟨trivial, fun answer _ => ⟨?_, fun _ _ => trivial⟩⟩
    apply Ensures.modify_bind
    apply Ensures.bind
    apply immediate.ensures
    intro events final pushes same
    refine Ensures.pure ⟨_, rfl, ?_⟩
    have silent : awaits events = [] := by
      refine List.filterMap_eq_nil_iff.mpr fun event member => ?_
      obtain ⟨_, rfl⟩ := pushes event member
      rfl
    have quiet : arrivals p events = [] := by
      rw [arrivals_eq_awaits, silent]
      rfl
    have grown : awaits (past ++ [.wrote p client.address ((stream.drop offset).take size)] ++
        w.awakening answer ++ events) = awaits past ++ [answer] := by
      rw [awaits_append, awaits_append, awaits_append, awaits_awakening, silent, List.append_nil]
      exact congrArg (· ++ [answer]) (List.append_nil _)
    have heard := (looking.toHeard.record
      (show arrivals p [.wrote p client.address ((stream.drop offset).take size)] = [] from
        rfl)).awaken answer
    have counted := heard.move (World.setRowsSent_listeners (w.awaken answer) p rows)
    refine ⟨(counted.record quiet).move (by rw [same]), ?_, advanced, fun behind => ?_⟩
    · rw [grown, List.length_append, count]
      rfl
    · by_cases earlier : look < sent
      · rw [List.append_assoc, List.append_assoc]
        exact (looking.passed earlier).append _
      · obtain rfl : look = sent := by
          dsimp only at behind
          omega
        refine ⟨by rw [grown, List.length_append, count]; exact Nat.lt_succ_self _, ?_⟩
        have early : earlyArrivals p look (past ++
            [.wrote p client.address ((stream.drop offset).take size)] ++ w.awakening answer ++
              events) = arrivals p past := by
          rw [earlyArrivals, grown, List.take_left' count, arrivals_eq_awaits]
        rw [early]
        exact fun event member =>
          Bool.eq_false_of_not_eq_true (List.any_eq_false.mp (unflagged rfl) event member)

/-- A transfer that returns has seen no open lid up to its last look. -/
theorem ensures_lookedTransfer {mode : ScaleMode} {blocks : List Block} {width height : Nat}
    {chunk : Int} (chunk_eq : (w.printers p).transport.effectiveChunkBytes = chunk)
    (laid : LaidOut width height mode stream bands blocks)
    (heard : Heard p slot waiters w past) (start : awaits past = []) (abort : World → Bool)
    (fraction : ℚ) {onProgress : Nat → Nat → Py Unit}
    (immediate : ∀ sent total, Immediate (onProgress sent total)) :
    Ensures (fun _ => True)
      (Printer.transfer p ⟨stream, bands, height⟩ abort slot fraction onProgress)
      ⟨fun _ w past => Heard p slot waiters w past ∧
          Unopened p (Printer.lastLook stream bands chunk.toNat) past,
        fun _ _ _ => True, fun _ _ => True⟩ w past := by
  set look := Printer.lastLook stream bands chunk.toNat with look_eq
  have tail_pos := laid.tailStart_pos
  have tail_le := laid.tailStart_le
  have look_before : look * chunk.toNat < Printer.tailStart stream bands := by
    have le : look * chunk.toNat ≤ Printer.tailStart stream bands - 1 := Nat.div_mul_le_self _ _
    omega
  apply Ensures.read_bind
  dsimp only
  rw [chunk_eq]
  apply Ensures.ite
  · exact fun _ => Ensures.raise trivial
  · intro _
    apply Ensures.iterate (Looking p slot waiters stream chunk.toNat look)
    · exact fun _ _ _ _ => trivial
    · rintro ⟨offset, sent⟩ w past looking
      have here : offset = min (sent * chunk.toNat) stream.length := looking.offset
      dsimp only
      apply Ensures.ite
      · intro inside
        apply Ensures.read_bind
        apply Ensures.ite
        · exact fun _ => ensures_raising
        · intro _
          apply Ensures.ite
          · exact fun _ => ensures_raising
          · intro closed
            apply Ensures.ite
            · exact fun _ => Ensures.raise trivial
            · intro _
              have unflagged : sent = look →
                  (arrivals p past).any DeviceEvent.lidOpens = false := by
                rintro rfl
                obtain ⟨absent, listens⟩ := looking.listens
                have flag : Printer.lidOpenSet w p slot =
                    (arrivals p past).any DeviceEvent.lidOpens := by
                  unfold Printer.lidOpenSet
                  rw [listens]
                rw [← flag]
                exact Bool.eq_false_of_not_eq_true fun opened => closed ⟨opened, by omega⟩
              apply (looking.ensures_chunk unflagged _ (immediate _ _)).mono
              · rintro step w past ⟨progress, rfl, looking⟩
                exact looking
              · exact fun _ _ _ => id
              · exact fun _ _ => id
      · intro atEnd
        refine Ensures.pure ⟨looking.toHeard, looking.passed ?_⟩
        dsimp only
        by_contra early
        have le : sent * chunk.toNat ≤ look * chunk.toNat :=
          Nat.mul_le_mul_right _ (not_lt.mp early)
        omega
    · refine ⟨heard, by rw [start]; rfl, ?_, fun behind => absurd behind (Nat.not_lt_zero _)⟩
      simp [Printer.offsetAt]

/-- The end of a print is reached only after the motor stop. -/
theorem ensures_attested (heard : Heard p slot waiters w past) (unopened : Unopened p look past) :
    Ensures (fun _ => True) (Printer.awaitCompletion p waiters.length)
      ⟨fun _ _ past => Attested p waiters look past, fun _ _ _ => True, fun _ _ => True⟩
      w past := by
  have rest : ∀ {w : World} {past : List TraceEvent}, Heard p slot waiters w past →
      Unopened p look past → Ensures (fun _ => True) (Printer.completion p waiters.length)
        ⟨fun _ _ past => Attested p waiters look past, fun _ _ _ => True, fun _ _ => True⟩
        w past := by
    intro w past heard unopened
    apply Ensures.read_bind
    apply Ensures.ite
    · intro stopped
      have attested : Attested p waiters look past := ⟨unopened, heard.stopped_iff.mp stopped⟩
      exact (Ensures.of_past attested.append).mono (fun _ _ _ => id) (fun _ _ _ _ => trivial)
        fun _ _ _ => trivial
    · exact fun _ => Ensures.raise trivial
  apply Ensures.read_bind
  apply Ensures.ite
  · exact fun _ => rest heard unopened
  · intro _
    apply Ensures.bind
    apply Ensures.bind
    refine ensures_tick trivial fun answer _ => Ensures.pure ?_
    exact rest (heard.awaken answer) (unopened.append _)

/-- Arming a job registers its waiter behind the others, and its callback. -/
theorem ensures_heardJob {post : Post PyExc World TraceEvent (Nat × Nat)}
    (silent : arrivals p past = [])
    (returned : ∀ slot after,
      (after.printers p).transport.effectiveChunkBytes =
        (w.printers p).transport.effectiveChunkBytes →
      Heard p slot (w.waiters p) after past →
      post.returned ((w.waiters p).length, slot) after past) :
    Ensures (fun _ => True) (Printer.armJob p) post w past := by
  apply Ensures.read_bind
  apply Ensures.modify_bind
  apply Ensures.bind
  apply Ensures.read_bind
  apply Ensures.modify_bind
  apply Ensures.pure
  apply Ensures.modify_bind
  apply Ensures.pure
  set waiting := w.setListeners p fun listeners =>
    { listeners with waiters := listeners.waiters ++ [{ eventType := .motorStopEvent }] }
    with waiting_eq
  apply returned
  · simp [waiting_eq, World.setListeners, World.setRowsSent, World.setPrinter]
  · have heard : Heard p (waiting.printers p).listeners.callbacks.length (w.waiters p)
        (waiting.setListeners p fun listeners =>
          { listeners with callbacks := listeners.callbacks ++ [.print false false] }) past := by
      constructor
      · rw [silent]
        simp [waiting_eq, World.waiters, World.setListeners, World.setPrinter, resolveAll]
      · rw [silent]
        exact ⟨false, Listens.added waiting p (.print false false)⟩
    exact heard.move (World.setRowsSent_listeners _ p 0)

/-- A print that returns. -/
theorem ensures_attestedPrint {bitmap : Bytes} {height : Nat} {density : Option Density}
    {mode : ScaleMode} {feedLines : Int}
    (built : buildRasterStream (w.printers p).profile bitmap height density mode feedLines =
      some (.ok (stream, bands)))
    (abort : World → Bool) (fraction : ℚ) {onProgress : Nat → Nat → Py Unit}
    (immediate : ∀ sent total, Immediate (onProgress sent total)) :
    Ensures (fun _ => True)
      (Printer.printBitmap p bitmap height density abort onProgress mode feedLines fraction)
      ⟨fun _ _ past => Attested p (w.waiters p)
          (Printer.lastLook stream bands (w.printers p).transport.effectiveChunkBytes.toNat) past,
        fun _ _ _ => True, fun _ _ => True⟩ w [] := by
  obtain ⟨blocks, laid, -⟩ := buildRasterStream_built built
  apply Ensures.read_bind
  apply Ensures.emit_bind
  intro _
  apply Ensures.ite
  · intro _
    rw [built]
    apply Ensures.bind
    refine ensures_heardJob rfl fun slot armed chunk heard => ?_
    apply Ensures.bind
    apply Ensures.andFinally
    apply Ensures.bind
    apply (ensures_lookedTransfer chunk laid heard rfl abort fraction immediate).mono
    · rintro _ w past ⟨heard, unopened⟩
      apply (ensures_attested heard unopened).mono
      · intro _ w past attested
        apply (Ensures.of_past attested.append).mono
        · intro _ w past attested
          exact Ensures.emit fun _ => attested.append _
        · exact fun _ _ _ _ => trivial
        · exact fun _ _ _ => trivial
      · exact fun _ _ _ _ => Ensures.of_forall (fun _ _ _ => trivial) (fun _ _ _ => trivial)
          fun _ _ => trivial
      · exact fun _ _ => id
    · exact fun _ _ _ _ => Ensures.of_forall (fun _ _ _ => trivial) (fun _ _ _ => trivial)
        fun _ _ => trivial
    · exact fun _ _ => id
  · exact fun _ => Ensures.raise trivial

end Print

namespace Printer

/-- A print that returns has waited for a motor stop.  No open lid was reported before that stop
exactly when none was from the last look on: from the write of the chunk that ends the raster. -/
theorem printBitmap_lid_iff (p : PrinterId) (bitmap : Bytes) (height : Nat)
    (density : Option Density) (abort : World → Bool) (onProgress : Nat → Nat → Py Unit)
    (immediate : ∀ sent total, Immediate (onProgress sent total)) (mode : ScaleMode)
    (feedLines : Int) (fraction : ℚ) (w : World) (script : List Tick) (stream : Bytes)
    (bands : List Band)
    (built : buildRasterStream (w.printers p).profile bitmap height density mode feedLines =
      some (.ok (stream, bands)))
    (trace : List TraceEvent) (final : World) (rest : List Tick)
    (returned : printBitmap p bitmap height density abort onProgress mode feedLines fraction w
      script = ⟨trace, .returned () final rest⟩) :
    let awaited := beforeStop (w.waiters p) (arrivals p trace)
    let look := lastLook stream bands (w.printers p).transport.effectiveChunkBytes.toNat
    (∃ stop after, arrivals p trace = awaited ++ stop :: after ∧
        stop.isInstance .motorStopEvent = true) ∧
      ((∀ event ∈ awaited, event.lidOpens = false) ↔
        ∀ event ∈ awaited.drop (earlyArrivals p look trace).length, event.lidOpens = false) := by
  intro awaited look
  have meets := ensures_attestedPrint built abort fraction immediate script fun _ _ => trivial
  rw [returned] at meets
  have attested : Attested p (w.waiters p) look trace := meets
  refine ⟨beforeStop_split attested.stopped, fun all event member => ?_,
    fun late event member => ?_⟩
  · exact all event (List.mem_of_mem_drop member)
  · obtain early | later := List.mem_append.mp
      ((List.take_append_drop (earlyArrivals p look trace).length awaited).symm ▸ member)
    · have prefixes : awaited.take (earlyArrivals p look trace).length <+:
          earlyArrivals p look trace := by
        refine List.prefix_of_prefix_length_le ?_ (earlyArrivals_begins p look trace)
          (List.length_take_le _ _)
        exact (List.take_prefix _ _).trans (beforeStop_begins _ _)
      exact attested.none event (prefixes.subset early)
    · exact late event later

/-- The answers to a print of the strip, with what comes while its last chunk is written. -/
def lidAnswers (during : List DeviceEvent) : List Tick :=
  [{}, {}, { incidents := [.notified 0 during] },
    { incidents := [.notified 0 [⟨0x0f, [0x1a, 0x0f, 0x0c], .motorStop⟩]] }, {},
    { incidents := [.notified 0 [⟨0x05, [0x1a, 0x05, 0x98], .lid .closed⟩]] }]

/-- A print of forty rows with those answers. -/
def lidRun (during : List DeviceEvent) : Run PyExc World Tick TraceEvent Unit :=
  printBitmap 0 (List.replicate 40 0xff) 40 none (fun _ => false) (fun _ _ => pure ()) .normal 20
    (1 / 4) { printers := fun _ => linkedStrip } (lidAnswers during)

theorem printBitmap_lid_iff_closed :
    ∃ trace final, lidRun [] = ⟨trace, .returned () final []⟩ ∧
      ((∀ event ∈ beforeStop [] (arrivals 0 trace), event.lidOpens = false) ↔
        ∀ event ∈ (beforeStop [] (arrivals 0 trace)).drop (earlyArrivals 0 2 trace).length,
          event.lidOpens = false) :=
  ⟨_, _, rfl, (printBitmap_lid_iff 0 (List.replicate 40 0xff) 40 none (fun _ => false)
    (fun _ _ => pure ()) (fun _ _ => TransferCall.immediate_pure) .normal 20 (1 / 4)
    { printers := fun _ => linkedStrip } (lidAnswers []) stripStream [⟨2, 10, 50, 40⟩] rfl _ _ _
    rfl).2⟩

/-- The lid is opened and closed while the chunk that ends the raster is written. -/
theorem lidRun_opened_returns :
    ∃ trace final,
      lidRun [⟨0x05, [0x1a, 0x05, 0x99], .lid .opened⟩, ⟨0x05, [0x1a, 0x05, 0x98], .lid .closed⟩] =
        ⟨trace, .returned () final []⟩ ∧
      ¬∀ event ∈ beforeStop [] (arrivals 0 trace), event.lidOpens = false :=
  ⟨_, _, rfl, by decide⟩

end Printer

end Phomemo
