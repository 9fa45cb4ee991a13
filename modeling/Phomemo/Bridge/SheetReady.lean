import Phomemo.Watches
import Phomemo.Wire.Paper

/-!
# What a ready reply rests on

`wait_ready` is answered with success only after two fresh answers of the printer the bridge holds:
its lid was asked for and is closed, then its paper sensor was asked and sees a sheet, and nothing
was written to any printer after that.
-/

namespace Phomemo

open Async Coroutine

/-- A question to a printer, and what happened from then to the next write. -/
def Asked (p : PrinterId) (command : QueryCommand) (piece : List TraceEvent) : Prop :=
  ∃ address rest, piece = .wrote p address command.bytes :: rest ∧ written rest = []

/-- A question that a printer's notification answered while nothing else was written. -/
structure AnsweredBy (p : PrinterId) (command : QueryCommand) (answer : EventData)
    (piece : List TraceEvent) : Prop where
  asked : Asked p command piece
  arrived : ∃ event ∈ arrivals p piece, event.data = answer

/-- The last two things written asked printer `p` for its lid and its paper sensor; the lid is
closed and a sheet is in. -/
def SheetReady (p : PrinterId) (past : List TraceEvent) : Prop :=
  ∃ before lid sheet, past = before ++ lid ++ sheet ∧
    AnsweredBy p .lidState (.lid .closed) lid ∧ AnsweredBy p .paperState (.paper .present) sheet

section

variable {p : PrinterId} {command : QueryCommand} {answer : EventData}
  {past piece later : List TraceEvent}

theorem Asked.quiet (asked : Asked p command piece) (silent : written later = []) :
    Asked p command (piece ++ later) := by
  obtain ⟨address, rest, rfl, unwritten⟩ := asked
  refine ⟨address, rest ++ later, rfl, ?_⟩
  rw [written_append, unwritten, silent, List.append_nil]

theorem AnsweredBy.quiet (answered : AnsweredBy p command answer piece)
    (silent : written later = []) : AnsweredBy p command answer (piece ++ later) where
  asked := answered.asked.quiet silent
  arrived := by
    obtain ⟨event, arrived, told⟩ := answered.arrived
    refine ⟨event, ?_, told⟩
    rw [arrivals_append]
    exact List.mem_append_left _ arrived

/-- Nothing but a write takes back that a sheet is ready. -/
theorem SheetReady.quiet (ready : SheetReady p past) (silent : written later = []) :
    SheetReady p (past ++ later) := by
  obtain ⟨before, lid, sheet, rfl, closed, present⟩ := ready
  exact ⟨before, lid, sheet ++ later, List.append_assoc _ _ _, closed, present.quiet silent⟩

end

/-! ## Queries -/

section

variable {rely : TraceEvent → Prop} {w : World} {past : List TraceEvent} {p : PrinterId}

/-- Nothing is promised of a run that does not return. -/
abbrev returning {α : Type} (returned : α → World → List TraceEvent → Prop) :
    Post PyExc World TraceEvent α :=
  ⟨returned, fun _ _ _ => True, fun _ _ => True⟩

theorem ensures_anything {α : Type} (program : Py α) :
    Ensures rely program (returning fun _ _ _ => True) w past :=
  Ensures.of_past fun _ => trivial

theorem ensures_excepting {α : Type} {kinds : PyExc → Bool} {body : Py α}
    {returned : α → World → List TraceEvent → Prop}
    (ensures : Ensures rely body (returning returned) w past) :
    Ensures rely (excepting kinds body)
      (returning fun result w past => ∀ value, result = some value → returned value w past)
      w past := by
  apply Ensures.handle
  apply Ensures.seq ensures
  · intro value w past holds
    apply Ensures.pure
    rintro _ ⟨⟩
    exact holds
  · intro exc w past _
    apply Ensures.ite
    · intro _
      apply Ensures.pure
      rintro _ ⟨⟩
    · exact fun _ => Ensures.raise trivial
  · exact fun _ _ => id

/-- What a program promises and what it keeps hold together when it returns. -/
theorem ensures_keeping {α : Type} {program : Py α} {inv : World → List TraceEvent → Prop}
    {returned : α → World → List TraceEvent → Prop}
    (ensures : Ensures rely program (returning returned) w past) (keeps : Keeps rely inv program)
    (holds : inv w past) :
    Ensures rely program (returning fun value w past => returned value w past ∧ inv w past)
      w past :=
  (ensures.and (keeps w past holds)).mono (fun _ _ _ => id) (fun _ _ _ _ => trivial)
    fun _ _ _ => trivial

/-- What a query returns arrived after the question was written, and nothing was written in
between. -/
theorem Printer.ensures_query (command : QueryCommand) (eventType : EventClass) :
    Ensures rely (Printer.query p command eventType)
      (returning fun result _ after => ∃ piece, after = past ++ piece ∧ Asked p command piece ∧
        ∀ event ∈ result, event ∈ arrivals p piece) w past := by
  apply Ensures.bind
  apply BleTransport.ensures_write
  · exact fun _ => trivial
  · exact fun _ _ _ => trivial
  · exact fun _ _ => trivial
  · intro client _ _ _
    refine ⟨trivial, fun asking _ => ⟨?_, fun _ _ => trivial⟩⟩
    apply Printer.ensures_waitFor
    · trivial
    · intro answering result _ given
      refine ⟨.wrote p client.address command.bytes :: (w.awakening asking ++
        (Printer.armed (w.awaken asking) p eventType).awakening answering), by simp, ?_, ?_⟩
      · refine ⟨client.address, _, rfl, ?_⟩
        rw [written_append, written_awakening, written_awakening]
        rfl
      · intro event taken
        change event ∈ arrivals p (w.awakening asking ++ _)
        rw [arrivals_append, arrivals_awakening p (Printer.armed (w.awaken asking) p eventType)]
        exact List.mem_append_right _ (given event taken).1

theorem Printer.ensures_lidClosed :
    Ensures rely (Printer.queryLid p)
      (returning fun lid _ after => lid = some .closed →
        ∃ piece, after = past ++ piece ∧ AnsweredBy p .lidState (.lid .closed) piece) w past := by
  apply Ensures.seq (Printer.ensures_query .lidState .lidEvent)
  · rintro result w after ⟨piece, rfl, asked, arrived⟩
    apply Ensures.pure
    intro closed
    obtain ⟨event, rfl, told⟩ := Option.bind_eq_some_iff.mp closed
    refine ⟨piece, rfl, asked, event, arrived event rfl, ?_⟩
    revert told
    cases event.data <;> simp
  · exact fun _ _ _ => id
  · exact fun _ _ => id

theorem Printer.ensures_sheetPresent :
    Ensures rely (Printer.queryPaper p)
      (returning fun paper _ after => paper = some .present →
        ∃ piece, after = past ++ piece ∧ AnsweredBy p .paperState (.paper .present) piece)
      w past := by
  apply Ensures.seq (Printer.ensures_query .paperState .paperEvent)
  · rintro result w after ⟨piece, rfl, asked, arrived⟩
    apply Ensures.emit_bind
    intro _
    apply Ensures.pure
    intro present
    obtain ⟨event, rfl, told⟩ := Option.bind_eq_some_iff.mp present
    have answered : AnsweredBy p .paperState (.paper .present) piece := by
      refine ⟨asked, event, arrived event rfl, ?_⟩
      revert told
      cases event.data <;> simp
    refine ⟨piece ++ [.paperRead (some .present)], ?_, answered.quiet rfl⟩
    rw [present, List.append_assoc]
  · exact fun _ _ _ => id
  · exact fun _ _ => id

/-! ## Waits -/

/-- A printer that is ready has just said so. -/
theorem Printer.ensures_checkReady :
    Ensures rely (Printer.checkReady p)
      (returning fun readiness _ after => readiness = .ready → SheetReady p after) w past := by
  apply Ensures.seq Printer.ensures_lidClosed
  · intro lid w after closed
    cases lid with
    | none => exact Ensures.pure (by rintro ⟨⟩)
    | some state =>
        cases state with
        | opened => exact Ensures.pure (by rintro ⟨⟩)
        | closed =>
            obtain ⟨asked, rfl, answered⟩ := closed rfl
            apply Ensures.seq Printer.ensures_sheetPresent
            · intro paper w after present
              cases paper with
              | none => exact Ensures.pure (by rintro ⟨⟩)
              | some state =>
                  cases state with
                  | absent => exact Ensures.pure (by rintro ⟨⟩)
                  | present =>
                      obtain ⟨seen, rfl, sensed⟩ := present rfl
                      exact Ensures.pure fun _ => ⟨past, asked, seen, rfl, answered, sensed⟩
            · exact fun _ _ _ => id
            · exact fun _ _ => id
  · exact fun _ _ _ => id
  · exact fun _ _ => id

theorem Printer.ensures_pollReady (env : Env) (deadline muteThreshold : Nat) :
    Ensures rely (Printer.pollReady env p deadline muteThreshold)
      (returning fun _ _ => SheetReady p) w past := by
  apply Ensures.iterate (fun _ _ _ => True) (fun _ _ _ => id) _ trivial
  rintro ⟨timeouts, reconnected⟩ w past -
  apply Ensures.seq Printer.ensures_checkReady
  · intro readiness w past ready
    apply Ensures.ite
    · exact fun is_ready => Ensures.pure (ready is_ready)
    · intro _
      apply Ensures.ite
      · intro _
        apply Ensures.seq (ensures_anything _)
        · exact fun _ _ _ _ => Ensures.pure trivial
        · exact fun _ _ _ => id
        · exact fun _ _ => id
      · intro _
        apply Ensures.read_bind
        apply Ensures.ite
        · exact fun _ => Ensures.raise trivial
        · intro _
          apply Ensures.seq (ensures_anything _)
          · exact fun _ _ _ _ => Ensures.pure trivial
          · exact fun _ _ _ => id
          · exact fun _ _ => id
  · exact fun _ _ _ => id
  · exact fun _ _ => id

/-- Letting the sheet seat writes nothing. -/
theorem Printer.ensures_waitForReady (env : Env) (timeout : Nat) (settle : ℚ) :
    Ensures rely (Printer.waitForReady env p timeout settle)
      (returning fun _ _ => SheetReady p) w past := by
  apply Ensures.read_bind
  apply Ensures.seq (Printer.ensures_pollReady env _ _)
  · intro _ w past ready
    apply Ensures.ite
    · intro _
      apply Ensures.bind
      apply Printer.ensures_waitFor
      · trivial
      · intro answer _ _ _
        exact Ensures.pure (ready.quiet (written_awakening _ _))
    · exact fun _ => Ensures.pure ready
  · exact fun _ _ _ => id
  · exact fun _ _ => id

/-! ## The printer of the bridge -/

/-- Work on a printer does not change which one the bridge holds. -/
theorem linkStable_printer (q : PrinterId) (held : Option PrinterId) :
    LinkStable rely (fun w _ => w.bridge.printer = held) q fun _ _ => True := by
  apply LinkStable.elsewhere
  · exact {
      awaken := fun w _ answer holds _ => (World.awaited_awaken answer).printer.trans holds
      quiet := fun _ _ _ quiet holds => quiet.printer.trans holds
      event := fun _ _ _ _ holds _ => holds
      wrote := fun _ _ _ _ holds _ _ _ => holds
      lost := fun _ _ holds _ => holds }
  · exact fun _ _ _ => id
  · exact fun _ _ _ => id
  · exact fun _ _ _ _ holds _ => holds
  · exact fun _ _ _ _ holds _ => holds

/-- The printer the bridge holds is ready. -/
def BridgeReady (w : World) (past : List TraceEvent) : Prop :=
  ∃ p, w.bridge.printer = some p ∧ SheetReady p past

theorem Session.ensures_readyRound (env : Env) (settle : ℚ) (emptyReason : WaitingReason)
    (timeouts : Nat) (state : Option WaitingReason) (held : w.bridge.printer = some p) :
    Ensures rely (Session.readyRound env p settle emptyReason timeouts state)
      (returning fun step w past => step = .inr () → BridgeReady w past) w past := by
  have stable := (@linkStable_printer rely p (some p)).device env
  have retries : ∀ {α : Type} (program : Py α) (seed : α → Nat × Option WaitingReason)
      (w : World) (past : List TraceEvent),
      Ensures rely (program >>= fun value =>
          (pure (.inl (seed value)) : Py ((Nat × Option WaitingReason) ⊕ Unit)))
        (returning fun step w past => step = .inr () → BridgeReady w past) w past := by
    intro α program seed w past
    apply Ensures.seq (ensures_anything program)
    · exact fun _ _ _ _ => Ensures.pure (by rintro ⟨⟩)
    · exact fun _ _ _ => id
    · exact fun _ _ => id
  have unready : ∀ (readiness : Printer.Readiness) (w : World) (past : List TraceEvent),
      Ensures rely
        (if readiness.couldNotQuery then
          if Session.muteThreshold ≤ timeouts + 1 then do
            Session.reconnectMute env p
            return .inl (0, state)
          else do
            pause
            return .inl (timeouts + 1, state)
        else do
          let state ← Session.report state (Session.waitingReason readiness emptyReason)
          pause
          return .inl (0, state) : Py ((Nat × Option WaitingReason) ⊕ Unit))
        (returning fun step w past => step = .inr () → BridgeReady w past) w past := by
    intro readiness w past
    apply Ensures.ite
    · intro _
      apply Ensures.ite
      · exact fun _ => retries _ (fun _ => (0, state)) w past
      · exact fun _ => retries _ (fun _ => (timeouts + 1, state)) w past
    · intro _
      apply Ensures.seq (ensures_anything _)
      · exact fun reported w past _ => retries _ (fun _ => (0, reported)) w past
      · exact fun _ _ _ => id
      · exact fun _ _ => id
  have checks := ensures_keeping (@Printer.ensures_checkReady rely w past p)
    (stable.checkReady .any) held
  apply Ensures.seq (ensures_excepting checks)
  · intro checked w past ready
    cases checked with
    | none => exact Ensures.pure (by rintro ⟨⟩)
    | some readiness =>
        obtain ⟨answered, held⟩ := ready readiness rfl
        cases readiness with
        | ready =>
            apply Ensures.ite
            · exact fun _ => Ensures.pure fun _ => ⟨p, held, answered rfl⟩
            · intro _
              have settles := ensures_keeping
                (@Printer.ensures_waitForReady rely w past p env 10000 settle)
                (stable.waitForReady _ _) held
              apply Ensures.seq (ensures_excepting settles)
              · intro settled w past seated
                cases settled with
                | none => exact Ensures.pure (by rintro ⟨⟩)
                | some _ =>
                    obtain ⟨answered, held⟩ := seated () rfl
                    exact Ensures.pure fun _ => ⟨p, held, answered⟩
              · exact fun _ _ _ => id
              · exact fun _ _ => id
        | lidUnknown => exact unready .lidUnknown w past
        | lidOpen => exact unready .lidOpen w past
        | paperUnknown => exact unready .paperUnknown w past
        | noPaper => exact unready .noPaper w past
  · exact fun _ _ _ => id
  · exact fun _ _ => id

theorem Session.ensures_waitReady (env : Env) (settle : ℚ) (emptyReason : WaitingReason) :
    Ensures rely (Session.waitReady env settle emptyReason)
      (returning fun _ => BridgeReady) w past := by
  apply Ensures.iterate (fun _ _ _ => True) (fun _ _ _ => id) _ trivial
  rintro ⟨timeouts, state⟩ w past -
  have connects : ∀ past, Ensures rely (Session.connectOnce env state >>= fun state =>
      (pure (.inl (timeouts, state)) : Py ((Nat × Option WaitingReason) ⊕ Unit)))
      (Post.round (fun _ _ _ => True) (returning fun _ => BridgeReady)) w past := by
    intro past
    apply Ensures.seq (ensures_anything _)
    · exact fun _ _ _ _ => Ensures.pure trivial
    · exact fun _ _ _ => id
    · exact fun _ _ => id
  apply Ensures.read_bind
  apply Ensures.ite
  · exact fun _ => Ensures.raise trivial
  · intro _
    cases held : w.bridge.printer with
    | none => exact connects past
    | some p =>
        apply Ensures.ite
        · intro _
          apply (Session.ensures_readyRound env settle emptyReason timeouts state held).mono
          · rintro (again | _) w past ready
            · trivial
            · exact ready rfl
          · exact fun _ _ _ => id
          · exact fun _ _ => id
        · exact fun _ => connects past

end

/-! ## The reply -/

/-- Writing the reply leaves the bridge's printer and writes nothing to it. -/
theorem ensures_answer_ready {rely : TraceEvent → Prop} {w : World} {past : List TraceEvent}
    (command : Command) (reply : Reply) (ready : BridgeReady w past) :
    Ensures rely (answer command reply) (returning fun _ => BridgeReady) w past := by
  obtain ⟨p, held, sheet⟩ := ready
  apply Ensures.emit_bind
  intro _
  apply Ensures.bind
  apply ensures_tick_bind
  · trivial
  · intro given _
    apply Ensures.pure
    apply Ensures.modify_bind
    apply Ensures.pure
    have awaited := World.awaited_awaken (w := w) given
    exact ⟨p, awaited.printer.trans held,
      (sheet.quiet rfl).quiet (written_awakening _ _)⟩

/-- A `wait_ready` answered with success rests on fresh answers of the printer the bridge holds:
the last two things written to any printer asked it for its lid, which is closed, and for its
paper sensor, which sees a sheet. -/
theorem waitReady_sheetReady (env : Env) (settle : Option (Except PyExc ℚ)) (w : World)
    (script unused : List Tick) (trace : List TraceEvent) (result : Result) (final : World)
    (ran : Session.runCommand env (.waitReady settle) w script =
      ⟨trace, .returned (.ok result) final unused⟩) :
    ∃ p, final.bridge.printer = some p ∧ SheetReady p trace := by
  have refuses : ∀ (text : String) (w : World) (past : List TraceEvent),
      Ensures (fun _ => True) (answer (.waitReady settle) (.error text))
        (returning fun reply w past => ∀ result, reply = .ok result → BridgeReady w past)
        w past := by
    intro text w past
    apply Ensures.emit_bind
    intro _
    apply Ensures.seq (ensures_anything _)
    · intro _ w past _
      apply Ensures.modify_bind
      apply Ensures.pure
      rintro _ ⟨⟩
    · exact fun _ _ _ => id
    · exact fun _ _ => id
  have replies : Ensures (fun _ => True) (Session.runCommand env (.waitReady settle))
      (returning fun reply w past => ∀ result, reply = .ok result → BridgeReady w past)
      w [] := by
    apply ensures_runCommand
    intro _
    change Ensures _ (Session.cmdWaitReady env settle) _ _ _
    unfold Session.cmdWaitReady
    cases settle.getD (.ok env.settleSeconds) with
    | error exc => exact Ensures.bind (Ensures.raise (refuses _ _ _))
    | ok seconds =>
        apply Ensures.bind
        apply Ensures.pure
        apply Ensures.seq (Session.ensures_waitReady env seconds .noSheet)
        · intro _ w past ready
          apply Ensures.pure
          exact (ensures_answer_ready _ _ ready).mono (fun _ _ _ ready _ _ => ready)
            (fun _ _ _ => id) fun _ _ => id
        · exact fun exc w past _ => refuses _ w past
        · exact fun _ _ => id
  have meets := replies script fun _ _ => trivial
  rw [ran] at meets
  exact meets result rfl

/-- A bridge that has just been started finds the printer, whose lid is closed over a sheet. -/
def waitedForSheet : Run PyExc World Tick TraceEvent Reply :=
  Session.runCommand stripEnv (.waitReady none) freshWorld
    [{}, scanned, {}, {}, {}, {}, { incidents := [lidClosed] }, {}, { incidents := [sheetPresent] },
      {}]

theorem waitReady_sheetReady_strip :
    ∃ p, waitedForSheet.ending.state.bridge.printer = some p ∧
      SheetReady p waitedForSheet.trace := by
  obtain ⟨trace, result, final, unused, ran⟩ :=
    @exists_of_isAnswered waitedForSheet (by decide +kernel)
  rw [ran]
  exact waitReady_sheetReady stripEnv none freshWorld _ unused trace result final ran

end Phomemo
