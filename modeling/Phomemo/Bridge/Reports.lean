import Phomemo.Bridge.Leftovers
import Phomemo.PrinterApp.Reasons
import Phomemo.Upkeep.Commands

/-!
# What a waiting job is shown

While `wait_ready` waits, its session reports why, each reason once as long as it stands.  The
printer app shows the reason reported last next to the job that waits.
-/

namespace Phomemo

open Async Coroutine

/-! ## Reports -/

/-- The name a reason is pushed by. -/
def WaitingReason.text : WaitingReason → String
  | connecting => "connecting"
  | printerOff => "printer-off"
  | adapterOff => "adapter-off"
  | lidOpen => "lid-open"
  | noSheet => "no-sheet"
  | shortSheet => "short-sheet"

/-- The fields of an event line. -/
def PushedEvent.fields : PushedEvent → Fields
  | progress percent => eventFields "progress" [("percent", .int percent)]
  | waiting reason => eventFields "waiting" [("reason", .str reason.text)]

/-- What an event pushes to the client. -/
def TraceEvent.pushes : TraceEvent → Option PushedEvent
  | .pushed event => some event
  | _ => none

/-- The events pushed to the client so far, in order. -/
def pushes (past : List TraceEvent) : List PushedEvent := past.filterMap TraceEvent.pushes

/-- What a reporter in some state has pushed: reports that change, from `connecting` on if it is
ever told. -/
structure InTurn (state : Option WaitingReason) (told : List WaitingReason) : Prop where
  last : told.getLast? = state
  changes : told.IsChain (· ≠ ·)
  first : .connecting ∉ told.tail
  long : .shortSheet ∉ told

/-- All that was pushed so far are the reports of a reporter in this state. -/
def Tells (state : Option WaitingReason) (past : List TraceEvent) : Prop :=
  ∃ told, pushes past = told.map .waiting ∧ InTurn state told

theorem pushes_append (past later : List TraceEvent) :
    pushes (past ++ later) = pushes past ++ pushes later :=
  List.filterMap_append

/-- A new reason is told. -/
theorem InTurn.concat {state : Option WaitingReason} {told : List WaitingReason}
    {reason : WaitingReason} (tells : InTurn state told) (changed : state ≠ some reason)
    (first : reason = .connecting → state = none) (long : reason ≠ .shortSheet) :
    InTurn (some reason) (told ++ [reason]) where
  last := List.getLast?_concat
  changes := by
    refine List.isChain_append.mpr ⟨tells.changes, List.isChain_singleton _, ?_⟩
    rintro before last other new rfl
    obtain rfl : reason = before := Option.some.inj new
    exact changed (tells.last.symm.trans last)
  first := by
    intro later
    cases told with
    | nil => exact List.not_mem_nil later
    | cons head rest =>
        rcases List.mem_append.mp later with before | new
        · exact tells.first before
        · have fresh := first (List.mem_singleton.mp new).symm
          have none := tells.last.trans fresh
          exact absurd (List.getLast?_eq_none_iff.mp none) (List.cons_ne_nil _ _)
  long := by
    intro member
    rcases List.mem_append.mp member with before | new
    · exact tells.long before
    · exact long (List.mem_singleton.mp new).symm

section

variable {rely : TraceEvent → Prop} {state : Option WaitingReason} {w : World}
  {past : List TraceEvent}

theorem Tells.silent {later : List TraceEvent} (tells : Tells state past)
    (silent : ∀ event ∈ later, ¬event.ToClient) : Tells state (past ++ later) := by
  have none : pushes later = [] := by
    refine List.filterMap_eq_nil_iff.mpr fun event member => ?_
    cases event with
    | pushed event => exact absurd (.pushed event) (silent _ member)
    | _ => rfl
  obtain ⟨told, pushed, tells⟩ := tells
  refine ⟨told, ?_, tells⟩
  rw [pushes_append, none, List.append_nil, pushed]

/-- Whatever the state of its reporter. -/
def TellsSome (past : List TraceEvent) : Prop := ∃ state, Tells state past

/-- What was pushed are the reports of some reporter; of which one, when a program returns. -/
abbrev reporting {α : Type} (returned : α → World → List TraceEvent → Prop) :
    Post PyExc World TraceEvent α :=
  ⟨returned, fun _ _ => TellsSome, fun _ => TellsSome⟩

/-- What says nothing to the client leaves its reporter. -/
theorem upholds_tells {α : Type} {program : Py α} (has : Conduct.silent.Has program) :
    Upholds rely (fun _ => Tells state) (fun _ => True) program :=
  has.upholds (fun _ _ _ _ ended tells => tells.silent ended.1)
    fun _ _ _ _ waits tells => tells.silent waits.1

/-- Sequencing after something that says nothing. -/
theorem tells_after {α β : Type} {first : Py β} (has : Conduct.silent.Has first)
    (tells : Tells state past) {next : β → Py α} {returned : α → World → List TraceEvent → Prop}
    (rest : ∀ value w past, Tells state past →
      Ensures rely (next value) (reporting returned) w past) :
    Ensures rely (first >>= next) (reporting returned) w past := by
  apply Ensures.seq (upholds_tells has w past tells)
  · exact rest
  · exact fun _ _ _ told => ⟨state, told.1⟩
  · exact fun _ _ told => ⟨state, told⟩

namespace Session

theorem tells_report (tells : Tells state past) {reason : WaitingReason}
    (first : reason = .connecting → state = none) (long : reason ≠ .shortSheet) :
    Ensures rely (report state reason) (reporting fun state _ => Tells state) w past := by
  apply Ensures.ite
  · exact fun _ => Ensures.pure tells
  · intro changed
    apply Ensures.bind
    apply Ensures.emit_bind
    intro _
    obtain ⟨told, pushed, tells⟩ := tells
    have reported : Tells (some reason) (past ++ [.pushed (.waiting reason)]) := by
      refine ⟨told ++ [reason], ?_, tells.concat changed first long⟩
      rw [pushes_append, pushed, List.map_append]
      rfl
    apply (upholds_tells Conduct.pause w _ reported).mono
    · exact fun _ w past told => Ensures.pure told
    · exact fun _ _ _ told => ⟨_, told.1⟩
    · exact fun _ _ told => ⟨_, told⟩

theorem tells_connectOnce (env : Env) (tells : Tells state past) :
    Ensures rely (connectOnce env state) (reporting fun state _ => Tells state) w past := by
  have connects : ∀ (state : Option WaitingReason) (w : World) (past : List TraceEvent),
      Tells state past → Ensures rely (handle
        (do
          Bridge.connect env none none
          return state)
        fun exc =>
          if exc.IsConnectionError then do
            let state ← report state (unreachableReason exc)
            pause
            return state
          else
            raise exc) (reporting fun state _ => Tells state) w past := by
    intro state w past tells
    apply Ensures.handle
    apply Ensures.seq (upholds_tells (Bridge.has_connect env none none) w past tells)
    · exact fun _ w past told => Ensures.pure told
    · rintro exc w past ⟨told, -⟩
      apply Ensures.ite
      · intro _
        apply Ensures.seq (tells_report told _ _)
        · intro state w past told
          exact tells_after Conduct.pause told fun _ w past told => Ensures.pure told
        · exact fun _ _ _ => id
        · exact fun _ _ => id
        · unfold unreachableReason
          split_ifs <;> rintro ⟨⟩
        · unfold unreachableReason
          split_ifs <;> rintro ⟨⟩
      · exact fun _ => Ensures.raise ⟨_, told⟩
    · exact fun _ _ told => ⟨_, told⟩
  apply Ensures.ite
  · intro new
    apply Ensures.seq (tells_report tells (fun _ => Option.isNone_iff_eq_none.mp new) (by decide))
    · exact connects
    · exact fun _ _ _ => id
    · exact fun _ _ => id
  · exact fun _ => Ensures.bind (Ensures.pure (connects state w past tells))

/-- What a round of waiting leaves: a reporter to go on with, or an end. -/
abbrev waitRound (step : (Nat × Option WaitingReason) ⊕ Unit) (_ : World)
    (past : List TraceEvent) : Prop :=
  ∃ state, Tells state past ∧ ∀ timeouts carried, step = .inl (timeouts, carried) → state = carried

theorem tells_again {timeouts : Nat} (tells : Tells state past) :
    Ensures rely (pure (.inl (timeouts, state)) : Py ((Nat × Option WaitingReason) ⊕ Unit))
      (reporting waitRound) w past :=
  Ensures.pure ⟨state, tells, by rintro _ _ ⟨⟩; rfl⟩

theorem tells_readyRound (env : Env) (p : PrinterId) (settle : ℚ) {emptyReason : WaitingReason}
    (first : emptyReason ≠ .connecting) (long : emptyReason ≠ .shortSheet) (timeouts : Nat)
    (tells : Tells state past) :
    Ensures rely (readyRound env p settle emptyReason timeouts state) (reporting waitRound)
      w past := by
  have unready : ∀ (readiness : Printer.Readiness) (w : World) (past : List TraceEvent),
      Tells state past → Ensures rely
        (if readiness.couldNotQuery then
          if muteThreshold ≤ timeouts + 1 then do
            reconnectMute env p
            return .inl (0, state)
          else do
            pause
            return .inl (timeouts + 1, state)
        else do
          let state ← report state (waitingReason readiness emptyReason)
          pause
          return .inl (0, state) : Py ((Nat × Option WaitingReason) ⊕ Unit))
        (reporting waitRound) w past := by
    intro readiness w past tells
    have reconnects : Conduct.silent.Has (reconnectMute env p) :=
      Effect.Has.handle (Printer.has_reconnect env p) fun _ =>
        Effect.Has.ite Conduct.pause (Effect.Has.raise _)
    apply Ensures.ite
    · intro _
      apply Ensures.ite
      · exact fun _ => tells_after reconnects tells fun _ _ _ told => tells_again told
      · exact fun _ => tells_after Conduct.pause tells fun _ _ _ told => tells_again told
    · intro _
      apply Ensures.seq (tells_report tells _ _)
      · exact fun _ _ _ told => tells_after Conduct.pause told fun _ _ _ told =>
          tells_again told
      · exact fun _ _ _ => id
      · exact fun _ _ => id
      · unfold waitingReason
        split_ifs
        · rintro ⟨⟩
        · exact fun same => absurd same first
      · unfold waitingReason
        split_ifs
        · rintro ⟨⟩
        · exact long
  apply tells_after (Conduct.excepting (Printer.has_checkReady p)) tells
  intro checked w past told
  cases checked with
  | none => exact tells_again told
  | some readiness =>
      cases readiness with
      | ready =>
          apply Ensures.ite
          · exact fun _ => Ensures.pure ⟨state, told, by rintro _ _ ⟨⟩⟩
          · intro _
            apply tells_after
              (Conduct.excepting (Printer.has_waitForReady env p 10000 settle)) told
            rintro (_ | _) w past told
            · exact tells_again told
            · exact Ensures.pure ⟨state, told, by rintro _ _ ⟨⟩⟩
      | lidUnknown => exact unready .lidUnknown w past told
      | lidOpen => exact unready .lidOpen w past told
      | paperUnknown => exact unready .paperUnknown w past told
      | noPaper => exact unready .noPaper w past told

theorem tells_waitReady (env : Env) (settle : ℚ) {emptyReason : WaitingReason}
    (first : emptyReason ≠ .connecting) (long : emptyReason ≠ .shortSheet)
    (tells : Tells none past) :
    Ensures rely (waitReady env settle emptyReason) (reporting fun _ _ => TellsSome) w past := by
  have goesOn : ∀ (seed : Nat × Option WaitingReason) (_ : World) (past : List TraceEvent),
      Tells seed.2 past → TellsSome past := fun seed _ _ told => ⟨seed.2, told⟩
  apply Ensures.iterate (fun seed _ => Tells seed.2) goesOn _ tells
  rintro ⟨timeouts, state⟩ w past tells
  have connects : Ensures rely (connectOnce env state >>= fun state =>
      (pure (.inl (timeouts, state)) : Py ((Nat × Option WaitingReason) ⊕ Unit)))
      (reporting waitRound) w past := by
    apply Ensures.seq (tells_connectOnce env tells)
    · exact fun _ _ _ told => tells_again told
    · exact fun _ _ _ => id
    · exact fun _ _ => id
  have rounds : ∀ {round : Py ((Nat × Option WaitingReason) ⊕ Unit)},
      Ensures rely round (reporting waitRound) w past →
      Ensures rely round (Post.round (fun seed _ => Tells seed.2)
        (reporting fun _ _ => TellsSome)) w past := by
    intro round ensures
    apply ensures.mono
    · rintro (⟨timeouts, carried⟩ | _) w past ⟨state, told, same⟩
      · obtain rfl := same timeouts carried rfl
        exact told
      · exact ⟨state, told⟩
    · exact fun _ _ _ => id
    · exact fun _ _ => id
  apply Ensures.read_bind
  apply Ensures.ite
  · exact fun _ => Ensures.raise ⟨_, tells⟩
  · intro _
    cases w.bridge.printer with
    | none => exact rounds connects
    | some p =>
        apply Ensures.ite
        · exact fun _ => rounds (tells_readyRound env p settle first long timeouts tells)
        · exact fun _ => rounds connects

/-- At every moment of a `wait_ready`, what was pushed are the reports of one reporter. -/
theorem tells_runCommand (env : Env) (settle : Option (Except PyExc ℚ)) :
    Ensures rely (runCommand env (.waitReady settle)) (reporting fun _ _ => TellsSome) w [] := by
  have answers : ∀ (reply : Reply) (w : World) (past : List TraceEvent), TellsSome past →
      Ensures rely (answer (.waitReady settle) reply) (reporting fun _ _ => TellsSome) w past := by
    rintro reply w past ⟨state, told, pushed, tells⟩
    apply Ensures.emit_bind
    intro _
    have kept : Tells state (past ++ [.replied .waitReady reply]) := by
      refine ⟨told, ?_, tells⟩
      rw [pushes_append, pushed]
      exact List.append_nil _
    apply tells_after Conduct.pause kept
    intro _ w past told
    apply Ensures.modify_bind
    exact Ensures.pure ⟨state, told⟩
  have start : Tells none [commandStart w (.waitReady settle)] :=
    ⟨[], rfl, rfl, .nil, List.not_mem_nil, List.not_mem_nil⟩
  apply ensures_runCommand
  intro _
  change Ensures _ (cmdWaitReady env settle) _ _ _
  unfold cmdWaitReady
  cases settle.getD (.ok env.settleSeconds) with
  | error exc => exact Ensures.bind (Ensures.raise (answers _ _ _ ⟨none, start⟩))
  | ok seconds =>
      apply Ensures.bind
      apply Ensures.pure
      apply Ensures.seq (tells_waitReady env seconds (by decide) (by decide) start)
      · exact fun _ w past told => Ensures.pure (answers _ w past told)
      · exact fun exc w past told => answers _ w past told
      · exact fun _ _ => id

end Session

end

/-! ## What is shown -/

/-- The reason that the printer shows for a report; while connecting, what was shown stays. -/
def WaitingReason.shown : WaitingReason → Option PrinterReason
  | connecting => none
  | printerOff => some .offline
  | adapterOff => some .other
  | lidOpen => some .coverOpen
  | noSheet => some .mediaEmpty
  | shortSheet => some .mediaEmpty

/-- The message that the job shows for a report. -/
def WaitingReason.message : WaitingReason → String
  | connecting => "Connecting to the printer."
  | printerOff => "Printer off, out of range or in use elsewhere; switch it on."
  | adapterOff => "Turn on Bluetooth."
  | lidOpen => "Close the lid."
  | noSheet => "Insert a sheet."
  | shortSheet => "Sheet too short; insert a longer one."

theorem waitingEvent_fields (reason : WaitingReason) :
    waitingEvent (PushedEvent.waiting reason).fields = some reason.text := by
  cases reason <;> rfl

theorem reportedReason_text (reason : WaitingReason) :
    reportedReason reason.text = reason.shown := by
  cases reason <;> decide

theorem showWaiting_message (reason : WaitingReason) (s : PrinterStatus) :
    (s.showWaiting reason.text).message = reason.message := by
  unfold PrinterStatus.showWaiting
  cases reason <;> rfl

/-- What the job shows after some reports and ticks. -/
theorem run_told {ticks : List (Option Fields)} {told : List WaitingReason}
    (heard : ticks.reduceOption = told.map fun reason => (PushedEvent.waiting reason).fields)
    (server : PrintServer) (display : Display) :
    (server.run (ticks.map .told)).status.message =
        (told.getLast?.map WaitingReason.message).getD server.status.message ∧
      (display.run (ticks.map .told)).pending = display.pending ∧
      (display.run (ticks.map .told)).shown =
        told.foldl (fun shown reason => reason.shown.or shown) display.shown := by
  induction ticks generalizing told server display with
  | nil =>
      obtain rfl : told = [] := List.map_eq_nil_iff.mp heard.symm
      exact ⟨rfl, rfl, rfl⟩
  | cons tick ticks ih =>
      cases tick with
      | none => exact ih heard server display
      | some fields =>
          cases told with
          | nil => exact absurd heard (List.cons_ne_nil _ _)
          | cons reason told =>
              obtain ⟨rfl, later⟩ := List.cons.inj heard
              obtain ⟨message, pending, shown⟩ := ih later
                (server.step (.told (some (PushedEvent.waiting reason).fields)))
                (display.step (.told (some (PushedEvent.waiting reason).fields)))
              have tells : (server.step (.told (some
                  (PushedEvent.waiting reason).fields))).status.message = reason.message := by
                change (jobEvent _ server.status).message = _
                rw [jobEvent_waiting (waitingEvent_fields reason), showWaiting_message]
              refine ⟨message.trans ?_, pending, shown.trans ?_⟩
              · rw [tells, List.getLast?_cons]
                cases told.getLast? <;> rfl
              · rw [List.foldl_cons]
                congr 1
                simp only [Display.step, waitingEvent_fields, Option.bind_some,
                  reportedReason_text]

/-- Reports that start with `connecting`, if ever, show the last one. -/
theorem foldl_shown {told : List WaitingReason} (first : .connecting ∉ told.tail)
    (shown : Option PrinterReason) :
    told.foldl (fun shown reason => reason.shown.or shown) shown =
      (told.getLast?.bind WaitingReason.shown).or shown := by
  rcases List.eq_nil_or_concat told with rfl | ⟨before, last, rfl⟩
  · rfl
  · rw [List.concat_eq_append, List.foldl_concat, List.getLast?_concat]
    cases before with
    | nil => rfl
    | cons head rest =>
        have other : last ≠ .connecting := by
          rintro rfl
          exact first (by simp)
        cases last with
        | connecting => exact absurd rfl other
        | _ => rfl

theorem PrintServer.allowsAll_told {server : PrintServer} (pending : server.pending.isSome)
    (ticks : List (Option Fields)) : server.AllowsAll (ticks.map .told) := by
  induction ticks generalizing server with
  | nil => trivial
  | cons tick ticks ih => exact ⟨pending, ih pending⟩

/-- While a job waits for its printer, whatever happens to that: the bridge pushes the reasons why,
each when it becomes the reason and `connecting` at most first; and told these, with ticks in
between, the printer app shows the last of them, as a reason of the printer next to `MEDIA_NEEDED`
and in words at the job. -/
theorem waitReady_shown (env : Env) (settle : Option (Except PyExc ℚ)) (w : World)
    (script : List Tick) (server : PrintServer) (further : Finset PrinterReason)
    (shown : Option PrinterReason) (apart : Disjoint further waitingReasons)
    (idle : server.pending = none) (sensed : ∀ reason ∈ shown, reason ∈ sensedReasons)
    (bits : server.status.reasons = further ∪ shown.toFinset) (ticks : List (Option Fields))
    (heard : ticks.reduceOption =
      (pushes (Session.runCommand env (.waitReady settle) w script).trace).map
        PushedEvent.fields) :
    ∃ told : List WaitingReason,
      pushes (Session.runCommand env (.waitReady settle) w script).trace = told.map .waiting ∧
      told.IsChain (· ≠ ·) ∧ .connecting ∉ told.tail ∧ .shortSheet ∉ told ∧
      (server.run (.calls .waitReady :: ticks.map .told)).status.reasons =
        further ∪ ({.mediaNeeded} ∪
          ((told.getLast?.bind WaitingReason.shown).or shown).toFinset) ∧
      (server.run (.calls .waitReady :: ticks.map .told)).status.message =
        (told.getLast?.map WaitingReason.message).getD "Waiting for the printer." := by
  have reports := @Session.tells_runCommand (fun _ => True) w env settle
  obtain ⟨state, told, pushed, tells⟩ := reports.always fun _ _ => trivial
  rw [pushed, List.map_map] at heard
  have start : Agrees further ⟨none, shown⟩ server := by
    refine ⟨idle, ?_, fun reason shows => sensed_others (sensed reason shows), fun _ => sensed⟩
    exact bits.trans (congrArg (further ∪ ·) (Finset.empty_union _).symm)
  have allowed : server.AllowsAll (.calls .waitReady :: ticks.map .told) :=
    ⟨idle, PrintServer.allowsAll_told rfl ticks⟩
  have agrees := start.run apart allowed
  obtain ⟨message, pending, last⟩ := run_told heard (server.step (.calls .waitReady))
    (Display.step ⟨none, shown⟩ (.calls .waitReady))
  refine ⟨told, pushed, tells.changes, tells.first, tells.long, ?_, message⟩
  rw [agrees.reasons, Display.reasons, Display.needed]
  change further ∪ ((if (Display.run (Display.step ⟨none, shown⟩ (.calls .waitReady))
    (ticks.map .told)).pending = some .waitReady then {.mediaNeeded} else ∅) ∪
      (Display.run (Display.step ⟨none, shown⟩ (.calls .waitReady))
        (ticks.map .told)).shown.toFinset) = _
  rw [pending, last, foldl_shown tells.first]
  rfl

/-- Bluetooth is off when a job starts to wait. -/
def waitedForAdapter : Run PyExc World Tick TraceEvent Reply :=
  Session.runCommand stripEnv (.waitReady none) freshWorld
    [{}, { bleakError := some "off" }, {}]

/-- The events the job is told meanwhile, and the seconds. -/
def adapterTicks : List (Option Fields) :=
  [none, some (PushedEvent.waiting .connecting).fields, none,
    some (PushedEvent.waiting .adapterOff).fields, none]

theorem waitReady_shown_adapter :
    ((PrintServer.mk ⟨∅, "", false, none⟩ none).run
      (.calls .waitReady :: adapterTicks.map .told)).status.message = "Turn on Bluetooth." := by
  have heard : pushes waitedForAdapter.trace = [.waiting .connecting, .waiting .adapterOff] := by
    decide +kernel
  unfold waitedForAdapter at heard
  obtain ⟨told, pushed, -, -, -, -, message⟩ := waitReady_shown stripEnv none freshWorld _
    (.mk ⟨∅, "", false, none⟩ none) ∅ none (by decide) rfl (by rintro _ ⟨⟩) rfl adapterTicks
    (congrArg (List.map PushedEvent.fields) heard).symm
  have same : told = [.connecting, .adapterOff] :=
    List.map_injective_iff.mpr (fun _ _ => PushedEvent.waiting.inj) (pushed.symm.trans heard)
  rw [message, same]
  rfl

end Phomemo
