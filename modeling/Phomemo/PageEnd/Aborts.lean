import Phomemo.Async.History
import Phomemo.Upkeep.Commands

/-!
# What an abort leaves to be written

Once a page is aborted no new attempt writes anything.  An attempt in progress still completes
its band, or the feed behind its last band, and then the sheet is fed out.
-/

namespace Phomemo

open Async Coroutine

/-! ## What a trace shows -/

/-- An abort came in. -/
def aborted (past : List TraceEvent) : Bool :=
  past.any fun event =>
    match event with
    | .tick answer => decide (.abort ∈ answer.incidents)
    | _ => false

/-- Where the latest print attempt stands. -/
inductive Attempt where
  | ended
  /-- It has written nothing yet. -/
  | called (call : PrintCall)
  /-- What it has written, and whether the last write is answered. -/
  | sending (call : PrintCall) (sent : Bytes) (answered : Bool)

/-- A transfer awaits nothing but its writes, so any other await shows that it is over. -/
def Attempt.next : Attempt → TraceEvent → Attempt
  | _, .printCalled call => .called call
  | .called call, .wrote _ _ data => .sending call data false
  | .sending call sent _, .wrote _ _ data => .sending call (sent ++ data) false
  | .sending call sent false, .tick _ => .sending call sent true
  | _, .tick _ => .ended
  | _, .printReturned => .ended
  | _, .interrupted => .ended
  | attempt, _ => attempt

def lastAttempt (past : List TraceEvent) : Attempt := past.foldl Attempt.next .ended

/-- What may follow in an attempt that is to end: the rest of a band it was stopped in, the feed
behind its last band, and commands once the whole stream is out. -/
inductive Completes (stream : Bytes) (bands : List Band) (sent data : Bytes) : Prop where
  | band (offset : Nat) (before : stream.take offset <+: sent)
      (rest : sent ++ data <+: stream.take offset ++ Printer.filler stream offset bands)
  | tail (behind : Printer.tailStart stream bands ≤ sent.length) (rest : sent ++ data <+: stream)
  | whole (out : stream <+: sent) (command : Commanded data)

/-- The job of a print call. -/
def Built (density : Option Density) (call : PrintCall) (stream : Bytes) (bands : List Band) :
    Prop :=
  ∃ profile : PrinterProfile, profile.widthBytes = call.widthBytes ∧
    buildRasterStream profile call.bitmap call.height density .normal 20 =
      some (.ok (stream, bands))

/-- These bytes complete what the attempt has begun. -/
def Finishes (density : Option Density) (call : PrintCall) (sent data : Bytes) : Prop :=
  ∃ stream bands, Built density call stream bands ∧ Completes stream bands sent data

/-- After an abort an attempt that has not written yet writes nothing, one that has finishes what
it began, and outside of attempts there are only commands. -/
def HeedsAbort (density : Option Density) (before : List TraceEvent) : TraceEvent → Prop
  | .wrote _ _ data => aborted before = true →
      match lastAttempt before with
      | .ended => Commanded data
      | .called _ => False
      | .sending call sent _ => Finishes density call sent data
  | _ => True

/-- Events that neither abort nor belong to an attempt. -/
def TraceEvent.Incidental : TraceEvent → Prop
  | .tick _ => False
  | .wrote _ _ _ => False
  | .printCalled _ => False
  | _ => True

section Trace

variable {past : List TraceEvent} {w : World} {answer : Tick}

theorem lastAttempt_concat (past : List TraceEvent) (event : TraceEvent) :
    lastAttempt (past ++ [event]) = (lastAttempt past).next event := by
  simp [lastAttempt]

theorem aborted_append (past later : List TraceEvent) :
    aborted (past ++ later) = (aborted past || aborted later) := by
  simp [aborted]

theorem aborted_of_incident (incidents : List Incident) :
    aborted (w.happenAll incidents).2 = false := by
  apply List.any_eq_false.mpr
  intro event member
  cases World.happenAll_events incidents event member <;> simp

theorem aborted_awakening (past : List TraceEvent) :
    aborted (past ++ w.awakening answer) =
      (aborted past || decide (.abort ∈ answer.incidents)) := by
  have silent := aborted_of_incident (w := w) answer.incidents
  unfold aborted at silent
  rw [aborted_append]
  simp [World.awakening, aborted, silent]

/-- Incidents are not part of an attempt. -/
theorem lastAttempt_awakening (past : List TraceEvent) :
    lastAttempt (past ++ w.awakening answer) = (lastAttempt past).next (.tick answer) := by
  have silent : ∀ (events : List TraceEvent) (attempt : Attempt),
      (∀ event ∈ events, event.OfIncident) → events.foldl Attempt.next attempt = attempt := by
    intro events
    induction events with
    | nil => exact fun _ _ => rfl
    | cons event events ih =>
        intro attempt incidents
        have same : attempt.next event = attempt := by
          cases incidents event List.mem_cons_self <;> cases attempt <;> rfl
        rw [List.foldl_cons, same]
        exact ih attempt fun other member => incidents other (List.mem_cons_of_mem _ member)
  unfold lastAttempt World.awakening
  rw [List.foldl_append, List.foldl_cons, silent _ _ (World.happenAll_events answer.incidents)]

end Trace

/-! ## Between the attempts -/

/-- The trace heeds every abort, and the session knows of one that came in. -/
structure Heeding (density : Option Density) (w : World) (past : List TraceEvent) : Prop where
  heeds : Throughout (HeedsAbort density) past
  known : aborted past = true → w.session.abort = true

/-- No attempt is under way. -/
structure BetweenAttempts (density : Option Density) (w : World) (past : List TraceEvent) :
    Prop extends Heeding density w past where
  ended : lastAttempt past = .ended

section Between

variable {density : Option Density} {w after : World} {past : List TraceEvent}
  {rely : TraceEvent → Prop}

theorem Heeding.nil (density : Option Density) (w : World) : Heeding density w [] :=
  ⟨throughout_nil, fun abort => Bool.noConfusion abort⟩

theorem Heeding.move (heeding : Heeding density w past)
    (same : after.session.abort = w.session.abort) : Heeding density after past :=
  ⟨heeding.heeds, fun abort => same.trans (heeding.known abort)⟩

theorem Heeding.concat {event : TraceEvent} (heeding : Heeding density w past)
    (here : HeedsAbort density past event) (unrelated : ∀ answer, event ≠ .tick answer) :
    Heeding density w (past ++ [event]) := by
  refine ⟨heeding.heeds.concat here, fun abort => heeding.known ?_⟩
  have silent : aborted [event] = false := by
    cases event with
    | tick answer => exact absurd rfl (unrelated answer)
    | _ => rfl
  rwa [aborted_append, silent, Bool.or_false] at abort

theorem Heeding.record {event : TraceEvent} (heeding : Heeding density w past)
    (incidental : event.Incidental) : Heeding density w (past ++ [event]) := by
  apply heeding.concat
  · cases event with
    | wrote => exact incidental.elim
    | _ => exact trivial
  · rintro answer rfl
    exact incidental

theorem Heeding.step {event : TraceEvent} (heeding : Heeding density w past)
    (same : after.session.abort = w.session.abort) (incidental : event.Incidental) :
    Heeding density after (past ++ [event]) :=
  (heeding.move same).record incidental

theorem Heeding.awaken (heeding : Heeding density w past) (answer : Tick) :
    Heeding density (w.awaken answer) (past ++ w.awakening answer) where
  heeds := by
    have appended : ∀ events past, (∀ event ∈ events, event.OfAwait) →
        Throughout (HeedsAbort density) past →
          Throughout (HeedsAbort density) (past ++ events) := by
      intro events
      induction events with
      | nil => simp
      | cons event events ih =>
          intro past awaits throughout
          have here : HeedsAbort density past event := by
            cases awaits event List.mem_cons_self <;> exact trivial
          have rest := ih (past ++ [event])
            (fun other member => awaits other (List.mem_cons_of_mem _ member))
            (throughout.concat here)
          simpa using rest
    exact appended _ _ (World.awakening_events answer) heeding.heeds
  known := by
    rw [aborted_awakening, World.awaken_abort]
    intro abort
    rcases Bool.or_eq_true_iff.mp abort with earlier | now
    · rw [heeding.known earlier, Bool.true_or]
    · rw [now, Bool.or_true]

theorem Heeding.idle (density : Option Density) : IdleStable rely (Heeding density) where
  awaken := fun _ _ answer heeding _ => heeding.awaken answer
  quiet := fun _ _ _ quiet heeding => heeding.move quiet.abort
  event := fun _ _ event wire heeding _ => heeding.record (by cases wire <;> trivial)

namespace BetweenAttempts

theorem move (between : BetweenAttempts density w past)
    (same : after.session.abort = w.session.abort) : BetweenAttempts density after past :=
  ⟨between.toHeeding.move same, between.ended⟩

theorem record {event : TraceEvent} (between : BetweenAttempts density w past)
    (incidental : event.Incidental) : BetweenAttempts density w (past ++ [event]) where
  toHeeding := between.toHeeding.record incidental
  ended := by
    rw [lastAttempt_concat, between.ended]
    cases event with
    | printCalled call => exact incidental.elim
    | _ => rfl

theorem step {event : TraceEvent} (between : BetweenAttempts density w past)
    (same : after.session.abort = w.session.abort) (incidental : event.Incidental) :
    BetweenAttempts density after (past ++ [event]) :=
  (between.move same).record incidental

theorem wrote (between : BetweenAttempts density w past) (p : PrinterId) (address : String)
    {data : Bytes} (command : Commanded data) :
    BetweenAttempts density w (past ++ [.wrote p address data]) where
  toHeeding := between.concat (by
    intro _
    rw [between.ended]
    exact command) fun _ same => by cases same
  ended := by
    rw [lastAttempt_concat, between.ended]
    rfl

theorem idle : IdleStable rely (BetweenAttempts density) where
  awaken := fun w past answer between _ =>
    ⟨between.awaken answer, by
      rw [lastAttempt_awakening, between.ended]
      rfl⟩
  quiet := fun _ _ _ quiet between => between.move quiet.abort
  event := fun _ _ event wire between _ => between.record (by cases wire <;> trivial)

theorem link (p : PrinterId) :
    LinkStable rely (BetweenAttempts density) p fun _ _ => True where
  toIdleStable := idle
  wrote := fun _ _ _ _ between _ _ command => between.wrote p _ command
  lost := fun _ _ between _ => between.step rfl trivial
  downed := fun _ _ between => between.move rfl
  hungUp := fun _ _ between => between.move rfl
  unset := fun _ _ between => between.move rfl
  dialed := fun _ _ _ between _ _ => between.step rfl trivial
  up := fun _ _ between => between.move rfl
  negotiated := fun _ _ _ _ between => between.move rfl
  named := fun _ _ _ between _ => between.move rfl
  learned := fun _ => trivial
  sought := fun _ _ _ => trivial
  handed := fun _ => trivial
  resolved := fun _ _ _ _ between _ => between.record trivial

theorem bridge (env : Env) :
    BridgeStable env rely (fun _ => BetweenAttempts density) fun _ _ => True where
  idle := fun _ => idle
  link := fun _ p _ => link p
  hold := fun _ _ _ _ between _ => between
  letGo := fun _ _ _ _ => id
  marked := fun _ _ _ between => between.move rfl
  event := fun _ _ _ event waits between _ => between.record (by cases waits <;> trivial)
  connecting := fun _ _ _ event connect between _ => between.record (by cases connect <;> trivial)
  cancelHold := fun _ _ _ between => between.move rfl
  adopted := fun _ _ _ _ _ between _ _ _ => between.step rfl trivial
  usedProfile := fun _ _ _ _ _ between _ _ _ _ => between.step rfl trivial
  replaced := fun _ _ _ _ _ between _ _ _ _ => between.step rfl trivial

theorem waits (env : Env) : WaitStable env rely fun _ => BetweenAttempts density :=
  (bridge env).waits

end BetweenAttempts

end Between

/-! ## An attempt -/

/-- An attempt has written these bytes and awaits nothing. -/
def Underway (call : PrintCall) (sent : Bytes) (past : List TraceEvent) : Prop :=
  lastAttempt past = .called call ∧ sent = [] ∨ lastAttempt past = .sending call sent true

/-- The exceptions of an attempt: with a cancel the attempt awaits nothing. -/
def Stops (density : Option Density) (error : PyExc) (w : World) (past : List TraceEvent) : Prop :=
  Heeding density w past ∧
    (error = .printAborted .cancelled → ∃ call sent, Underway call sent past)

section Attempts

variable {density : Option Density} {call : PrintCall} {sent data stream : Bytes}
  {bands : List Band} {offset : Nat} {p : PrinterId} {w : World} {past : List TraceEvent}
  {rely : TraceEvent → Prop}

theorem Underway.push (underway : Underway call sent past) (event : PushedEvent) :
    Underway call sent (past ++ [.pushed event]) := by
  unfold Underway at underway ⊢
  rw [lastAttempt_concat]
  rcases underway with ⟨called, none⟩ | sending
  · exact .inl ⟨by rw [called]; rfl, none⟩
  · exact .inr (by rw [sending]; rfl)

theorem Underway.await (underway : Underway call sent past) (answer : Tick) :
    lastAttempt (past ++ w.awakening answer) = .ended := by
  rw [lastAttempt_awakening]
  rcases underway with ⟨called, -⟩ | sending
  · rw [called]
    rfl
  · rw [sending]
    rfl

/-- A write of an attempt. -/
theorem Heeding.ensures_write (heeding : Heeding density w past)
    (underway : Underway call sent past)
    (allowed : aborted past = true →
      lastAttempt past = .sending call sent true ∧ Finishes density call sent data) :
    Ensures rely (BleTransport.write p data)
      ⟨fun _ w past => Heeding density w past ∧
          lastAttempt past = .sending call (sent ++ data) true,
        Stops density, Heeding density⟩ w past := by
  apply BleTransport.ensures_write
  · exact fun _ => ⟨heeding, nofun⟩
  · exact fun _ _ _ => ⟨heeding, nofun⟩
  · exact fun _ _ => ⟨heeding, nofun⟩
  · intro client _ _ _
    have wrote : Heeding density w (past ++ [.wrote p client.address data]) := by
      apply heeding.concat
      · intro abort
        obtain ⟨sending, finishes⟩ := allowed abort
        rw [sending]
        exact finishes
      · exact fun _ same => by cases same
    have unanswered : lastAttempt (past ++ [.wrote p client.address data]) =
        .sending call (sent ++ data) false := by
      rw [lastAttempt_concat]
      rcases underway with ⟨called, rfl⟩ | sending
      · rw [called]
        rfl
      · rw [sending]
        rfl
    refine ⟨wrote, fun answer _ => ⟨⟨wrote.awaken answer, ?_⟩, fun _ _ => ⟨?_, nofun⟩⟩⟩
    · rw [lastAttempt_awakening, unanswered]
      rfl
    · exact (wrote.awaken answer).step rfl trivial

/-! ## Completing the band -/

theorem filler_zero (stream : Bytes) (bands : List Band) : Printer.filler stream 0 bands = [] := by
  have none : bands.find? (fun band => band.headerStart < 0 ∧ 0 < band.dataEnd) = none := by
    simp
  unfold Printer.filler
  rw [none]

/-- Whatever is left of the filler completes the band. -/
theorem ensures_finishPieces (built : Built density call stream bands) (size fuel : Nat)
    (data : Bytes) (heeding : Heeding density w past)
    (sending : lastAttempt past = .sending call sent true) (before : stream.take offset <+: sent)
    (rest : sent ++ data <+: stream.take offset ++ Printer.filler stream offset bands) :
    Ensures rely (Printer.writePieces p size fuel data)
      ⟨fun _ w past => Heeding density w past ∧ ∃ sent, Underway call sent past,
        Stops density, Heeding density⟩ w past := by
  induction fuel generalizing data sent w past with
  | zero => exact Ensures.pure ⟨heeding, sent, .inr sending⟩
  | succ fuel ih =>
      cases data with
      | nil => exact Ensures.pure ⟨heeding, sent, .inr sending⟩
      | cons byte others =>
          have piece : sent ++ (byte :: others).take size <+: sent ++ byte :: others :=
            (List.prefix_append_right_inj sent).mpr (List.take_prefix size _)
          have finishes : Finishes density call sent ((byte :: others).take size) :=
            ⟨stream, bands, built, .band offset before (piece.trans rest)⟩
          apply Ensures.seq (heeding.ensures_write (.inr sending) fun _ => ⟨sending, finishes⟩)
          · rintro _ w past ⟨heeding, sending⟩
            apply ih _ heeding sending
            · exact before.trans (List.prefix_append _ _)
            · rwa [List.append_assoc, List.take_append_drop]
          · exact fun _ _ _ => id
          · exact fun _ _ => id

theorem Heeding.ensures_padBand (built : Built density call stream bands)
    (inside : offset < stream.length) (heeding : Heeding density w past)
    (underway : Underway call (stream.take offset) past) :
    Ensures rely (Printer.padBand p stream offset bands)
      ⟨fun _ w past => Heeding density w past ∧ ∃ sent, Underway call sent past,
        Stops density, Heeding density⟩ w past := by
  apply Ensures.read_bind
  dsimp only
  rcases underway with ⟨called, none⟩ | sending
  · have zero : offset = 0 := by
      have length := congrArg List.length none
      rw [List.length_take, List.length_nil] at length
      omega
    rw [zero, filler_zero]
    exact Ensures.pure ⟨heeding, [], .inl ⟨called, rfl⟩⟩
  · exact ensures_finishPieces built _ _ _ heeding sending List.prefix_rfl List.prefix_rfl

/-! ## The transfer -/

theorem Built.stream_pos (built : Built density call stream bands) : 0 < stream.length := by
  obtain ⟨profile, -, built⟩ := built
  exact (buildRasterStream_begins built).1

/-- Before anything is sent the bands are not all out. -/
theorem Built.tailStart_pos (built : Built density call stream bands) :
    0 < Printer.tailStart stream bands := by
  have stream_pos := built.stream_pos
  obtain ⟨profile, -, built⟩ := built
  unfold Printer.tailStart
  cases last : bands.getLast? with
  | none => exact stream_pos
  | some band => exact (buildRasterStream_begins built).2 band (List.mem_of_getLast? last)

/-- A progress report writes nothing; its exceptions are logged and ignored. -/
theorem onProgress_underway (height : Nat) :
    Upholds rely (fun w past => Heeding density w past ∧ Underway call sent past) (fun _ => False)
      (handle (Session.onProgress p height) fun _ => pure ()) := by
  have reports : Keeps rely (fun w past => Heeding density w past ∧ Underway call sent past)
      (Session.onProgress p height) := by
    apply Upholds.bind Upholds.read
    intro w
    apply Upholds.ite
    · intro _
      apply Upholds.bind
      · exact Upholds.modify fun w past kept => ⟨kept.1.move rfl, kept.2⟩
      · intro _
        exact Upholds.emit fun w past kept _ => ⟨kept.1.record trivial, kept.2.push _⟩
    · exact fun _ => Upholds.pure _
  exact Upholds.handle reports fun _ _ => Upholds.pure _

/-- The next chunk of a transfer that is not stopped: no abort is known, or the bands are out. -/
theorem Heeding.ensures_chunk (built : Built density call stream bands) (size : Nat)
    (heeding : Heeding density w past) (underway : Underway call (stream.take offset) past)
    (inside : offset < stream.length)
    (passed : w.session.abort = true → Printer.tailStart stream bands ≤ offset) :
    Ensures rely (BleTransport.write p ((stream.drop offset).take size))
      ⟨fun _ w past => Heeding density w past ∧
          Underway call (stream.take (offset + ((stream.drop offset).take size).length)) past,
        Stops density, Heeding density⟩ w past := by
  have length : (stream.take offset).length = offset := List.length_take_of_le inside.le
  have allowed : aborted past = true →
      lastAttempt past = .sending call (stream.take offset) true ∧
        Finishes density call (stream.take offset) ((stream.drop offset).take size) := by
    intro abort
    have behind := passed (heeding.known abort)
    have tail_pos := built.tailStart_pos
    rcases underway with ⟨-, none⟩ | sending
    · rw [none, List.length_nil] at length
      omega
    · refine ⟨sending, stream, bands, built, .tail ?_ ?_⟩
      · rw [length]
        exact behind
      · rw [take_append_piece]
        exact List.take_prefix _ _
  apply (heeding.ensures_write underway allowed).mono
  · rintro _ w past ⟨heeding, sending⟩
    rw [take_append_piece] at sending
    exact ⟨heeding, .inr sending⟩
  · exact fun _ _ _ => id
  · exact fun _ _ => id

/-- A transfer sends the whole stream, or stops as an abort demands. -/
theorem Heeding.ensures_transfer (built : Built density call stream bands)
    (heeding : Heeding density w past) (underway : Underway call [] past) (height slot : Nat)
    (fraction : ℚ) :
    Ensures rely (Printer.transfer p ⟨stream, bands, height⟩ (fun w => w.session.abort) slot
        fraction fun _ _ => Session.onProgress p height)
      ⟨fun _ w past => Heeding density w past ∧ Underway call stream past,
        Stops density, Heeding density⟩ w past := by
  apply Ensures.read_bind
  dsimp only
  apply Ensures.ite
  · exact fun _ => Ensures.raise ⟨heeding, nofun⟩
  · intro _
    apply Ensures.iterate (fun progress w past => Heeding density w past ∧
      progress.1 ≤ stream.length ∧ Underway call (stream.take progress.1) past)
    · exact fun _ _ _ kept => kept.1
    · rintro ⟨offset, sent⟩ w past ⟨heeding, upTo, underway⟩
      dsimp only at upTo underway ⊢
      apply Ensures.ite
      · intro inside
        have stops : ∀ reason, Ensures rely
            (Printer.padBand p stream offset bands >>= fun _ =>
              (raise (.printAborted reason) : Py ((Nat × Nat) ⊕ Unit)))
            ⟨fun _ _ _ => False, Stops density, Heeding density⟩ w past := by
          intro reason
          apply Ensures.seq (heeding.ensures_padBand built inside underway)
          · exact fun _ w past kept => Ensures.raise ⟨kept.1, fun _ => ⟨call, kept.2⟩⟩
          · exact fun _ _ _ => id
          · exact fun _ _ => id
        apply Ensures.read_bind
        apply Ensures.ite
        · intro _
          exact (stops .cancelled).mono (fun _ _ _ => False.elim) (fun _ _ _ => id) fun _ _ => id
        · intro unstopped
          apply Ensures.ite
          · intro _
            exact (stops .lidOpened).mono (fun _ _ _ => False.elim) (fun _ _ _ => id) fun _ _ => id
          · intro _
            apply Ensures.ite
            · exact fun _ => Ensures.raise ⟨heeding, nofun⟩
            · intro _
              have passed : w.session.abort = true → Printer.tailStart stream bands ≤ offset :=
                fun abort => not_lt.mp fun before => unstopped ⟨abort, before⟩
              apply Ensures.seq (heeding.ensures_chunk built _ underway inside passed)
              · rintro _ w past ⟨heeding, underway⟩
                apply Ensures.modify_bind
                apply Upholds.seq (onProgress_underway height)
                · exact ⟨heeding.move rfl, underway⟩
                · rintro _ w past ⟨heeding, underway⟩
                  refine Ensures.pure ⟨heeding, ?_, underway⟩
                  rw [List.length_take, List.length_drop]
                  dsimp only
                  omega
                · exact fun _ _ _ _ => False.elim
                · exact fun _ _ kept => kept.1
              · exact fun _ _ _ => id
              · exact fun _ _ => id
      · intro atEnd
        rw [List.take_of_length_le (not_lt.mp atEnd)] at underway
        exact Ensures.pure ⟨heeding, underway⟩
    · exact ⟨heeding, Nat.zero_le _, underway⟩

/-! ## Behind the stream -/

/-- The whole stream is out, or the attempt is over. -/
structure Drained (density : Option Density) (call : PrintCall) (stream : Bytes) (w : World)
    (past : List TraceEvent) : Prop extends Heeding density w past where
  drained : lastAttempt past = .ended ∨
    ∃ sent answered, lastAttempt past = .sending call sent answered ∧ stream <+: sent

namespace Drained

theorem record {event : TraceEvent} (drained : Drained density call stream w past)
    (incidental : event.Incidental) (inside : ∀ attempt : Attempt, attempt.next event = attempt) :
    Drained density call stream w (past ++ [event]) where
  toHeeding := drained.toHeeding.record incidental
  drained := by
    rw [lastAttempt_concat, inside]
    exact drained.drained

theorem wrote (built : Built density call stream bands)
    (drained : Drained density call stream w past) (address : String) (command : Commanded data) :
    Drained density call stream w (past ++ [.wrote p address data]) := by
  rcases drained.drained with ended | ⟨sent, answered, sending, whole⟩
  · have between : BetweenAttempts density w past := ⟨drained.toHeeding, ended⟩
    have wrote := between.wrote p address command
    exact ⟨wrote.toHeeding, .inl wrote.ended⟩
  · refine ⟨?_, .inr ⟨sent ++ data, false, ?_, whole.trans (List.prefix_append _ _)⟩⟩
    · apply drained.concat
      · intro _
        rw [sending]
        exact ⟨stream, bands, built, .whole whole command⟩
      · exact fun _ same => by cases same
    · rw [lastAttempt_concat, sending]
      cases answered <;> rfl

theorem wire (built : Built density call stream bands) (p : PrinterId) :
    WireStable rely (Drained density call stream) p where
  awaken := fun w past answer drained _ => by
    refine ⟨drained.toHeeding.awaken answer, ?_⟩
    rw [lastAttempt_awakening]
    rcases drained.drained with ended | ⟨sent, answered, sending, whole⟩
    · rw [ended]
      exact .inl rfl
    · rw [sending]
      cases answered with
      | false => exact .inr ⟨sent, true, rfl, whole⟩
      | true => exact .inl rfl
  quiet := fun _ _ _ quiet drained => ⟨drained.move quiet.abort, drained.drained⟩
  event := fun _ _ event wire drained _ => drained.record (by cases wire <;> trivial) (by
    intro attempt
    cases wire <;> cases attempt <;> rfl)
  wrote := fun _ _ client _ drained _ _ command => drained.wrote built client.address command
  lost := fun w past drained _ =>
    have down : Drained density call stream (w.setConnected p false) past :=
      ⟨drained.move rfl, drained.drained⟩
    down.record trivial fun attempt => by cases attempt <;> rfl

end Drained

/-- Every exception but a cancel. -/
theorem completionFails (inv : World → List TraceEvent → Prop) :
    WireStable.TransferFails inv p (fun error => error ≠ .printAborted .cancelled)
      (fun _ => false) where
  connection := fun _ => nofun
  unconnected := fun _ _ _ _ => nofun
  oversize := fun _ _ _ _ _ _ _ => nofun
  chunkless := fun _ _ _ _ _ => nofun
  cancelled := fun _ _ _ => nofun
  lidOpened := nofun
  sheetRanOut := fun _ => nofun
  silent := nofun

/-- A job, from its listeners to its completion. -/
theorem Heeding.ensures_job (built : Built density call stream bands)
    (heeding : Heeding density w past) (underway : Underway call [] past) (height : Nat)
    (fraction : ℚ) :
    Ensures rely (do
        let (entry, slot) ← Printer.armJob p
        andFinally
          (do
            Printer.transfer p ⟨stream, bands, height⟩ (fun w => w.session.abort) slot fraction
              fun _ _ => Session.onProgress p height
            Printer.awaitCompletion p entry)
          (Printer.disarmJob p entry slot)
        emit .printReturned : Py Unit)
      ⟨fun _ => BetweenAttempts density, Stops density, Heeding density⟩ w past := by
  have arms : Upholds rely (fun w past => Heeding density w past ∧ Underway call [] past)
      (fun _ => False) (Printer.armJob p) :=
    keeps_armJob fun _ _ _ quiet kept => ⟨kept.1.move quiet.abort, kept.2⟩
  have disarms : ∀ entry slot,
      Upholds rely (Drained density call stream) (fun _ => False)
        (Printer.disarmJob p entry slot) :=
    keeps_disarmJob fun _ _ _ quiet drained => ⟨drained.move quiet.abort, drained.drained⟩
  have cleans : ∀ entry slot error w past, Stops density error w past →
      Ensures rely (Printer.disarmJob p entry slot)
        ⟨fun _ => Stops density error, Stops density, Heeding density⟩ w past := by
    intro entry slot error w past stops
    have kept : Upholds rely (Stops density error) (fun _ => False)
        (Printer.disarmJob p entry slot) :=
      keeps_disarmJob (fun _ _ _ quiet stops => ⟨stops.1.move quiet.abort, stops.2⟩) entry slot
    apply kept.ensures stops
    · exact fun _ _ _ => id
    · exact fun _ _ _ _ => False.elim
    · exact fun _ _ stops => stops.1
  have ends : ∀ entry, Upholds rely (Drained density call stream)
      (fun error => error ≠ .printAborted .cancelled) (Printer.awaitCompletion p entry) :=
    (Drained.wire built p).awaitCompletion (completionFails _)
  apply Upholds.seq arms ⟨heeding, underway⟩
  · rintro ⟨entry, slot⟩ w past ⟨heeding, underway⟩
    have completes : Ensures rely (andFinally
        (do
          Printer.transfer p ⟨stream, bands, height⟩ (fun w => w.session.abort) slot fraction
            fun _ _ => Session.onProgress p height
          Printer.awaitCompletion p entry)
        (Printer.disarmJob p entry slot))
        ⟨fun _ => Drained density call stream, Stops density, Heeding density⟩ w past := by
      apply Ensures.andFinally
      apply Ensures.seq (heeding.ensures_transfer built underway height slot fraction)
      · rintro _ w past ⟨heeding, underway⟩
        have drained : Drained density call stream w past := by
          refine ⟨heeding, ?_⟩
          rcases underway with ⟨-, none⟩ | sending
          · exact absurd built.stream_pos (by simp [none])
          · exact .inr ⟨stream, true, sending, List.prefix_rfl⟩
        apply (ends entry).ensures drained
        · intro _ w past drained
          apply (disarms entry slot).ensures drained
          · exact fun _ _ _ => id
          · exact fun _ _ _ _ => False.elim
          · exact fun _ _ drained => drained.toHeeding
        · exact fun error w past drained other =>
            cleans entry slot error w past ⟨drained.toHeeding, fun same => absurd same other⟩
        · exact fun _ _ drained => drained.toHeeding
      · exact fun error w past stops => cleans entry slot error w past stops
      · exact fun _ _ => id
    apply Ensures.seq completes
    · intro _ w past drained
      apply Ensures.emit
      intro _
      refine ⟨drained.toHeeding.record trivial, ?_⟩
      rw [lastAttempt_concat]
      cases lastAttempt past <;> rfl
    · exact fun _ _ _ => id
    · exact fun _ _ => id
  · exact fun _ _ _ _ => False.elim
  · exact fun _ _ kept => kept.1

end Attempts

/-! ## The attempts of a page -/

section Page

variable {density : Density} {bitmap : Bytes} {height : Nat} {p : PrinterId} {w : World}
  {past : List TraceEvent} {rely : TraceEvent → Prop}

/-- One attempt: a page that is called, sent and completed leaves no attempt under way. -/
theorem BetweenAttempts.ensures_printBitmap (between : BetweenAttempts (some density) w past) :
    Ensures rely (Printer.printBitmap p bitmap height (some density) (fun w => w.session.abort)
        fun _ _ => Session.onProgress p height)
      ⟨fun _ => BetweenAttempts (some density), Stops (some density), Heeding (some density)⟩
      w past := by
  apply Ensures.read_bind
  apply Ensures.emit_bind
  intro _
  have called : ∀ call, Heeding (some density) w (past ++ [.printCalled call]) :=
    fun call => between.concat trivial fun _ same => by cases same
  have underway : ∀ call, Underway call [] (past ++ [.printCalled call]) := by
    intro call
    refine .inl ⟨?_, rfl⟩
    rw [lastAttempt_concat, between.ended]
    rfl
  apply Ensures.ite
  · intro _
    cases job :
      buildRasterStream (w.printers p).profile bitmap height (some density) .normal 20 with
    | none => exact Ensures.diverge (called _)
    | some outcome =>
        cases outcome with
        | error exc => exact Ensures.raise ⟨called _, fun _ => ⟨_, [], underway _⟩⟩
        | ok job => exact (called _).ensures_job ⟨_, rfl, job⟩ (underway _) height _
  · exact fun _ => Ensures.raise ⟨called _, nofun⟩

theorem BetweenAttempts.ensures_printPage (between : BetweenAttempts (some density) w past) :
    Ensures rely (Session.printPage p bitmap height density)
      ⟨fun _ => BetweenAttempts (some density), Stops (some density), Heeding (some density)⟩
      w past := by
  have reset : BetweenAttempts (some density)
      (w.setSession fun session => { session with lastPercent := -1 }) past := between.move rfl
  have pushes : Upholds rely (BetweenAttempts (some density)) (fun _ => False)
      (Session.sendEvent (.progress 100)) := BetweenAttempts.idle.sendEvent _
  apply Ensures.modify_bind
  apply Ensures.seq reset.ensures_printBitmap
  · intro _ w past between
    apply Ensures.read_bind
    apply Ensures.ite
    · intro _
      apply pushes.ensures between
      · exact fun _ _ _ => id
      · exact fun _ _ _ _ => False.elim
      · exact fun _ _ between => between.toHeeding
    · exact fun _ => Ensures.pure between
  · exact fun _ _ _ => id
  · exact fun _ _ => id

theorem Stops.interrupt {error : PyExc} (stops : Stops (some density) error w past) :
    BetweenAttempts (some density) w (past ++ [.interrupted]) := by
  refine ⟨stops.1.record trivial, ?_⟩
  rw [lastAttempt_concat]
  cases lastAttempt past <;> rfl

/-- Every way on from an interrupted attempt leads between the attempts. -/
theorem Stops.ensures_recover (env : Env) {error : PyExc}
    (stops : Stops (some density) error w past) :
    Ensures rely (Session.recover env p error)
      ⟨fun _ => BetweenAttempts (some density), fun _ => Heeding (some density),
        Heeding (some density)⟩ w past := by
  have waits : WaitStable env rely fun _ => BetweenAttempts (some density) :=
    BetweenAttempts.waits env
  have inHand : p ∈ [p] := List.mem_cons_self
  have ejects : Keeps rely (BetweenAttempts (some density)) (Printer.ejectPaper p) :=
    (BetweenAttempts.link p).ejectPaper .any
  have recovers : Keeps rely (BetweenAttempts (some density)) (Session.recoverLink env) :=
    @WaitStable.recoverLink env rely _ [p] waits
  have awaits : ∀ reason,
      Keeps rely (BetweenAttempts (some density)) (Session.waitForFreshSheet env reason) :=
    @WaitStable.waitForFreshSheet env rely _ [p] waits
  have goesOn : ∀ {α : Type} {program : Py α} {w : World} {past : List TraceEvent},
      Keeps rely (BetweenAttempts (some density)) program →
      BetweenAttempts (some density) w past →
      Ensures rely program
        ⟨fun _ => BetweenAttempts (some density), fun _ => Heeding (some density),
          Heeding (some density)⟩ w past :=
    fun keeps between => keeps.ensures between (fun _ _ _ => id)
      (fun _ _ _ between _ => between.toHeeding) (fun _ _ between => between.toHeeding)
  apply Phomemo.ensures_recover
  · intro _ _
    apply Ensures.emit_bind
    intro _
    refine goesOn ?_ stops.interrupt
    apply Upholds.bind recovers
    intro _
    apply Upholds.bind (waits.ejectRemainder inHand)
    exact fun _ => awaits _
  · intro cancelled
    obtain ⟨call, sent, underway⟩ := stops.2 cancelled
    apply Ensures.bind
    apply ensures_tick_bind stops.1
    intro answer _
    apply Ensures.pure
    have ended : BetweenAttempts (some density) (w.awaken answer) (past ++ w.awakening answer) :=
      ⟨stops.1.awaken answer, underway.await answer⟩
    exact goesOn (Upholds.bind ejects fun _ => Upholds.raise trivial) ended
  · intro _
    apply Ensures.emit_bind
    intro _
    exact goesOn (awaits _) stops.interrupt
  · exact fun _ _ => stops.1
  · exact fun _ => stops.1

theorem BetweenAttempts.ensures_printAttempts (env : Env)
    (between : BetweenAttempts (some density) w past) :
    Ensures rely (Session.printAttempts env p bitmap height density)
      ⟨fun _ => BetweenAttempts (some density), fun _ => Heeding (some density),
        Heeding (some density)⟩ w past := by
  apply Ensures.forever (BetweenAttempts (some density)) _ _ between
  · exact fun _ _ between => between.toHeeding
  · intro w past between
    apply Ensures.handle
    apply Ensures.seq between.ensures_printPage
    · exact fun _ _ _ between => Ensures.pure between
    · intro error w past stops
      apply Ensures.seq (stops.ensures_recover env)
      · exact fun _ _ _ between => Ensures.pure between
      · exact fun _ _ _ => id
      · exact fun _ _ => id
    · exact fun _ _ => id

theorem BetweenAttempts.ensures_printComplete (env : Env) (page : PageBuffer)
    (between : BetweenAttempts (some page.density) w past) :
    Ensures rely (Session.printComplete env p page)
      ⟨fun _ => Heeding (some page.density), fun _ => Heeding (some page.density),
        Heeding (some page.density)⟩ w past := by
  have prepares : Keeps rely (BetweenAttempts (some page.density))
      (Session.preparedPage env p page) := BetweenAttempts.idle.preparedPage env p page
  have ejects : Keeps rely (BetweenAttempts (some page.density)) (Printer.ejectPaper p) :=
    (BetweenAttempts.link p).ejectPaper .any
  apply Upholds.seq prepares between
  · rintro ⟨bitmap, height⟩ w past between
    apply Ensures.seq (between.ensures_printAttempts env)
    · intro _ w past between
      apply Ensures.bind
      apply Ensures.handle
      apply Upholds.seq ejects between
      · exact fun _ _ _ between => Ensures.pure (Ensures.pure between.toHeeding)
      · intro error w past between _
        apply Ensures.emit_bind
        exact fun _ => Ensures.raise (between.toHeeding.record trivial)
      · exact fun _ _ between => between.toHeeding
    · exact fun _ _ _ => id
    · exact fun _ _ => id
  · exact fun _ _ _ between _ => between.toHeeding
  · exact fun _ _ between => between.toHeeding

end Page

/-- In every run of `page_end`, whatever is written after an abort finishes the attempt in
progress or is a command between the attempts: no attempt begins to write. -/
theorem pageEnd_heeds_abort (env : Env) (w : World) (script : List Tick) :
    Throughout (HeedsAbort (w.session.page.map PageBuffer.density))
      (Session.runCommand env .pageEnd w script).trace := by
  set density := w.session.page.map PageBuffer.density with density_eq
  have finishes : ∀ reply w past, Heeding density w past →
      Ensures (fun _ => True) (answer .pageEnd reply)
        ⟨fun _ _ => Throughout (HeedsAbort density), fun _ _ => Throughout (HeedsAbort density),
          fun _ => Throughout (HeedsAbort density)⟩ w past := by
    intro reply w past heeding
    apply ((Heeding.idle density).ensures_answer (heeding.record trivial)).mono
    · rintro given w past ⟨-, _, heeding, -⟩
      exact heeding.heeds
    · exact fun _ _ _ => False.elim
    · exact fun _ _ heeding => heeding.heeds
  have began : BetweenAttempts density (w.accept .pageEnd) ([] ++ [commandStart w .pageEnd]) :=
    BetweenAttempts.record ⟨⟨throughout_nil, fun abort => Bool.noConfusion abort⟩, rfl⟩ trivial
  have whole : Ensures (fun _ => True) (Session.runCommand env .pageEnd)
      ⟨fun _ _ => Throughout (HeedsAbort density), fun _ _ => Throughout (HeedsAbort density),
        fun _ => Throughout (HeedsAbort density)⟩ w [] := by
    apply ensures_runCommand
    intro _
    apply ensures_cmdPageEnd
    · exact fun _ _ => finishes _ _ _ began.toHeeding
    · intro page p printable
      have shown : density = some page.density := by
        rw [density_eq]
        exact congrArg (Option.map PageBuffer.density) printable.inProgress
      rw [shown] at began finishes ⊢
      have started : BetweenAttempts (some page.density)
          ((w.accept .pageEnd).setSession fun session => { session with usedLink := true })
          ([] ++ [commandStart w .pageEnd]) := began.move rfl
      apply (started.ensures_printComplete env page).mono
      · exact fun _ w past heeding => finishes _ _ past (heeding.move rfl)
      · exact fun _ w past heeding => finishes _ _ past (heeding.move rfl)
      · exact fun _ _ heeding => heeding.heeds
  exact whole.always fun _ _ => trivial

end Phomemo
