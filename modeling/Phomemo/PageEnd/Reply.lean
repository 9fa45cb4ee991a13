import Phomemo.Upkeep.Commands

/-!
# The reply of `page_end` and the printed page

A page is on paper once a print attempt has returned.  The command answers accordingly, unless
the eject that follows fails.
-/

namespace Phomemo

open Async Coroutine

/-- No attempt has returned so far. -/
structure Unprinted (past : List TraceEvent) : Prop where
  unreturned : .printReturned ∉ past
  ejects : ∀ error, .finalEjectFailed error ∉ past

/-- An attempt has returned, and no eject after it failed. -/
structure OnPaper (past : List TraceEvent) : Prop where
  returned : .printReturned ∈ past
  ejects : ∀ error, .finalEjectFailed error ∉ past

/-- An attempt has returned, but the eject after it failed. -/
structure EjectFailed (past : List TraceEvent) : Prop where
  returned : .printReturned ∈ past
  eject : ∃ error, .finalEjectFailed error ∈ past

/-- An event that neither ends an attempt nor reports the last eject. -/
def TraceEvent.Unrelated (event : TraceEvent) : Prop :=
  event ≠ .printReturned ∧ ∀ error, event ≠ .finalEjectFailed error

theorem TraceEvent.Ordinary.unrelated {event : TraceEvent} (ordinary : event.Ordinary) :
    event.Unrelated := by
  cases ordinary with
  | await kind => cases kind <;> exact ⟨nofun, nofun⟩
  | wire kind => cases kind <;> exact ⟨nofun, nofun⟩
  | connect kind => cases kind <;> exact ⟨nofun, nofun⟩
  | waits kind => cases kind <;> exact ⟨nofun, nofun⟩
  | writeFailed p => exact ⟨nofun, nofun⟩
  | wrote p address data => exact ⟨nofun, nofun⟩
  | dialed p address overlapped => exact ⟨nofun, nofun⟩
  | resolved asked found => exact ⟨nofun, nofun⟩
  | usedProfile p old new => exact ⟨nofun, nofun⟩
  | replacedPrinter old new => exact ⟨nofun, nofun⟩

theorem Unprinted.after {past : List TraceEvent} {event : TraceEvent} (unprinted : Unprinted past)
    (unrelated : event.Unrelated) : Unprinted (past ++ [event]) where
  unreturned := by
    simp only [List.mem_append, List.mem_singleton, not_or]
    exact ⟨unprinted.unreturned, unrelated.1.symm⟩
  ejects := by
    intro error
    simp only [List.mem_append, List.mem_singleton, not_or]
    exact ⟨unprinted.ejects error, (unrelated.2 error).symm⟩

theorem Unprinted.print {past : List TraceEvent} (unprinted : Unprinted past) :
    OnPaper (past ++ [.printReturned]) where
  returned := by simp
  ejects := by
    intro error
    simp only [List.mem_append, List.mem_singleton, not_or]
    exact ⟨unprinted.ejects error, nofun⟩

theorem OnPaper.after {past : List TraceEvent} {event : TraceEvent} (onPaper : OnPaper past)
    (unrelated : event.Unrelated) : OnPaper (past ++ [event]) where
  returned := List.mem_append_left _ onPaper.returned
  ejects := by
    intro error
    simp only [List.mem_append, List.mem_singleton, not_or]
    exact ⟨onPaper.ejects error, (unrelated.2 error).symm⟩

theorem OnPaper.fail {past : List TraceEvent} (onPaper : OnPaper past) (error : PyExc) :
    EjectFailed (past ++ [.finalEjectFailed error]) where
  returned := List.mem_append_left _ onPaper.returned
  eject := ⟨error, by simp⟩

theorem EjectFailed.after {past : List TraceEvent} (failed : EjectFailed past)
    (event : TraceEvent) : EjectFailed (past ++ [event]) where
  returned := List.mem_append_left _ failed.returned
  eject := by
    obtain ⟨error, member⟩ := failed.eject
    exact ⟨error, List.mem_append_left _ member⟩

/-- An answer that fits what the trace shows. -/
def Answered (reply : Reply) (past : List TraceEvent) : Prop :=
  (reply = .ok [("impressions", .int 1)] ∧ OnPaper past) ∨
    ((∃ text, reply = .error text) ∧ (Unprinted past ∨ EjectFailed past))

theorem Answered.after {reply : Reply} {past : List TraceEvent} {event : TraceEvent}
    (answered : Answered reply past) (unrelated : event.Unrelated) :
    Answered reply (past ++ [event]) := by
  rcases answered with ⟨ok, onPaper⟩ | ⟨refused, unprinted | failed⟩
  · exact .inl ⟨ok, onPaper.after unrelated⟩
  · exact .inr ⟨refused, .inl (unprinted.after unrelated)⟩
  · exact .inr ⟨refused, .inr (failed.after event)⟩

section Attempts

variable {rely : TraceEvent → Prop}

theorem unprinted_kept : KeptByOrdinary rely Unprinted :=
  fun _ _ ordinary unprinted _ => unprinted.after ordinary.unrelated

theorem onPaper_kept : KeptByOrdinary rely OnPaper :=
  fun _ _ ordinary onPaper _ => onPaper.after ordinary.unrelated

/-- A printed page is reported to be so. -/
theorem printPage_prints (p : PrinterId) (bitmap : Bytes) (height : Nat) (density : Density)
    {w : World} {past : List TraceEvent} (unprinted : Unprinted past) :
    Ensures rely (Session.printPage p bitmap height density)
      ⟨fun _ _ past => OnPaper past, fun _ _ past => Unprinted past, fun _ _ => True⟩ w past := by
  have before : KeptByOrdinary rely Unprinted := unprinted_kept
  have printed : KeptByOrdinary rely OnPaper := onPaper_kept
  apply Ensures.modify_bind
  apply Ensures.bind
  apply (before.stream p).ensures_printBitmap WireStable.transferFails_any
    (fun _ _ => before.idle.onProgress p height)
  · exact fun _ _ _ _ _ _ _ _ => unprinted.after ⟨nofun, nofun⟩
  · exact fun _ _ _ _ => id
  · exact fun _ _ _ => id
  · intro w past unprinted _
    apply Ensures.read_bind
    have last := unprinted.print
    apply Ensures.ite
    · intro _
      exact (printed.idle.sendEvent (.progress 100)).ensures last (fun _ _ _ => id)
        (fun _ _ _ _ => False.elim) (fun _ _ _ => trivial)
    · exact fun _ => Ensures.pure last
  · exact fun _ _ _ unprinted _ => unprinted
  · exact fun _ _ _ => trivial

/-- The attempts end with the page on paper or not at all. -/
theorem printAttempts_print (env : Env) (p : PrinterId) (bitmap : Bytes) (height : Nat)
    (density : Density) {w : World} {past : List TraceEvent} (unprinted : Unprinted past) :
    Ensures rely (Session.printAttempts env p bitmap height density)
      ⟨fun _ _ past => OnPaper past, fun _ _ past => Unprinted past, fun _ _ => True⟩ w past := by
  have before : KeptByOrdinary rely Unprinted := unprinted_kept
  have recovers : ∀ exc, Keeps rely (fun _ past => Unprinted past)
      (Session.recover env p exc) :=
    fun exc => (before.waits env).recover (List.mem_cons_self (l := []))
      (fun _ _ unprinted _ => unprinted.after ⟨nofun, nofun⟩) exc
  apply Ensures.forever (fun _ past => Unprinted past) (fun _ _ _ => trivial) _ unprinted
  intro w past unprinted
  apply Ensures.handle
  apply Ensures.seq (printPage_prints p bitmap height density unprinted)
  · exact fun _ _ _ onPaper => Ensures.pure onPaper
  · intro exc w past unprinted
    apply Upholds.seq (recovers exc) unprinted
    · exact fun _ _ _ unprinted => Ensures.pure unprinted
    · exact fun _ _ _ unprinted _ => unprinted
    · exact fun _ _ _ => trivial
  · exact fun _ _ => id

/-- A page that is answered is on paper; an error means it is not, or that the eject failed. -/
theorem printComplete_prints (env : Env) (p : PrinterId) (page : PageBuffer) {w : World}
    {past : List TraceEvent} (unprinted : Unprinted past) :
    Ensures rely (Session.printComplete env p page)
      ⟨fun result _ past => result = [("impressions", .int 1)] ∧ OnPaper past,
        fun _ _ past => Unprinted past ∨ EjectFailed past, fun _ _ => True⟩ w past := by
  have before : KeptByOrdinary rely Unprinted := unprinted_kept
  have printed : KeptByOrdinary rely OnPaper := onPaper_kept
  have prepares : Keeps rely (fun _ past => Unprinted past) (Session.preparedPage env p page) :=
    before.idle.preparedPage env p page
  apply Upholds.seq prepares unprinted
  · rintro ⟨bitmap, height⟩ w past unprinted
    apply Ensures.seq (printAttempts_print env p bitmap height page.density unprinted)
    · intro _ w past onPaper
      have ejects : Keeps rely (fun _ past => OnPaper past) (Printer.ejectPaper p) :=
        (printed.link p).ejectPaper .any
      apply Ensures.bind
      apply Ensures.handle
      apply Upholds.seq ejects onPaper
      · exact fun _ _ _ onPaper => Ensures.pure (Ensures.pure ⟨rfl, onPaper⟩)
      · intro error w past onPaper _
        apply Ensures.emit_bind
        exact fun _ => Ensures.raise (.inr (onPaper.fail error))
      · exact fun _ _ _ => trivial
    · exact fun _ _ _ unprinted => .inl unprinted
    · exact fun _ _ => id
  · exact fun _ _ _ unprinted _ => .inl unprinted
  · exact fun _ _ _ => trivial

/-- A handler's end answers what its trace shows. -/
theorem cmdPageEnd_answers (env : Env) {w : World} {past : List TraceEvent}
    (unprinted : Unprinted past) :
    Ensures rely (Session.cmdPageEnd env)
      ⟨fun result _ past => Answered (.ok result) past,
        fun error _ past => Answered (.error (Session.errorText error)) past,
        fun _ _ => True⟩ w past := by
  apply ensures_cmdPageEnd
  · exact fun _ text => .inr ⟨⟨_, rfl⟩, .inl unprinted⟩
  · intro page p _
    apply (printComplete_prints env p page unprinted).mono
    · rintro result w past ⟨rfl, onPaper⟩
      exact .inl ⟨rfl, onPaper⟩
    · exact fun error w past raised => .inr ⟨⟨_, rfl⟩, raised⟩
    · exact fun _ _ => id

/-- What a finished `page_end` answered fits what its trace shows. -/
theorem pageEnd_answers (env : Env) (w : World) :
    Ensures rely (Session.runCommand env .pageEnd)
      ⟨fun reply _ past => Answered reply past, fun _ _ _ => False, fun _ _ => True⟩ w [] := by
  have start : Unprinted [] := ⟨nofun, nofun⟩
  have finishes : ∀ reply w past, Answered reply past →
      Ensures rely (answer .pageEnd reply)
        ⟨fun reply _ past => Answered reply past, fun _ _ _ => False, fun _ _ => True⟩ w past := by
    intro reply w past answered
    have kept : KeptByOrdinary rely (Answered reply) :=
      fun _ _ ordinary answered _ => answered.after ordinary.unrelated
    apply (kept.idle.ensures_answer (answered.after ⟨nofun, nofun⟩)).mono
    · rintro given w past ⟨rfl, _, answered, -⟩
      exact answered
    · exact fun _ _ _ => False.elim
    · exact fun _ _ _ => trivial
  have began : Unprinted ([] ++ [commandStart w .pageEnd]) := start.after ⟨nofun, nofun⟩
  apply ensures_runCommand
  intro _
  apply (cmdPageEnd_answers env began).mono
  · exact fun result w past answered => finishes _ w past answered
  · exact fun error w past answered => finishes _ w past answered
  · exact fun _ _ => id

end Attempts

/-- The reply to `page_end` is the one impression exactly when an attempt returned, if and only
if no eject after a printed page failed. -/
theorem pageEnd_reply_iff (env : Env) (w : World) (script : List Tick) (trace : List TraceEvent)
    (reply : Reply) (final : World) (rest : List Tick)
    (ran : Session.runCommand env .pageEnd w script = ⟨trace, .returned reply final rest⟩) :
    (reply = .ok [("impressions", .int 1)] ↔ .printReturned ∈ trace) ↔
      ∀ error, .finalEjectFailed error ∉ trace := by
  have answered : Answered reply trace := by
    have ensures : Ensures (fun _ => True) (Session.runCommand env .pageEnd) _ w [] :=
      pageEnd_answers env w
    have meets := ensures script fun _ _ => trivial
    rw [ran] at meets
    exact meets
  rcases answered with ⟨rfl, onPaper⟩ | ⟨⟨text, rfl⟩, unprinted | failed⟩
  · exact ⟨fun _ => onPaper.ejects, fun _ => ⟨fun _ => onPaper.returned, fun _ => rfl⟩⟩
  · exact ⟨fun _ => unprinted.ejects, fun _ =>
      ⟨nofun, fun returned => absurd returned unprinted.unreturned⟩⟩
  · constructor
    · intro agrees
      exact absurd (agrees.mpr failed.returned) nofun
    · intro none
      obtain ⟨error, member⟩ := failed.eject
      exact absurd member (none error)

/-! ## A page of one row -/

/-- The surroundings with the strip printer as the only model. -/
def stripEnv : Env where
  registry :=
    { profiles := [strip]
      compile := anyName
      names_nodup := PrinterProfile.singleton_nodup strip
      compiles := strip_compiles }
  upper := id
  repr := fun _ => ""
  diffuse := fun _ _ _ => 0
  settleSeconds := 0

theorem stripEnv_joins : stripEnv.registry.Joins := ⟨_, rfl⟩

theorem eightDots_pos : 0 < 8 := by decide

theorem eightDots_aligned : PageBits.one = .one → 8 % 8 = 0 := fun _ => rfl

theorem oneRow_fits : 1 ≤ 1 := le_rfl

/-- One row of eight black dots, all received. -/
def stripPage : PageBuffer where
  width := 8
  lengthRows := 1
  bits := .one
  tone := .threshold
  density := .medium
  mediaLengthMm := none
  rotate := false
  rows := 1
  data := [0xff]
  width_pos := eightDots_pos
  lengthRows_pos := Nat.one_pos
  width_aligned := eightDots_aligned
  rows_le := oneRow_fits
  data_length := by decide

/-- A session on a connected strip printer with that page in progress. -/
def stripWorld : World where
  printers := fun _ => linkedStrip
  nextPrinter := 1
  nextClient := 1
  bridge := { printer := some 0, sessionActive := true }
  session := { page := some stripPage }

/-- The motor of the first printer stops. -/
def motorStops : Incident := .notified 0 [⟨0, [], .motorStop⟩]

/-- The first printer answers with the lid closed. -/
def lidClosed : Incident := .notified 0 [⟨0, [], .lid .closed⟩]

/-- The first printer answers with the lid open. -/
def lidOpen : Incident := .notified 0 [⟨0, [], .lid .opened⟩]

/-- The first printer senses a sheet. -/
def sheetPresent : Incident := .notified 0 [⟨0, [], .paper .present⟩]

/-- The first printer senses no sheet. -/
def sheetAbsent : Incident := .notified 0 [⟨0, [], .paper .absent⟩]

/-- The answers until the attempt has returned, then others. -/
def printingScript (later : List Tick) : List Tick :=
  {} :: {} :: { incidents := [motorStops] } :: {} :: { incidents := [lidClosed] } :: later

/-- The page is printed and its sheet already gone. -/
theorem pageEnd_reply_strip :
    ∃ trace reply final rest,
      Session.runCommand stripEnv .pageEnd stripWorld
          (printingScript [{}, { incidents := [sheetAbsent] }, {}, {}, {}, {}]) =
        ⟨trace, .returned reply final rest⟩ ∧
      ((reply = .ok [("impressions", .int 1)] ↔ .printReturned ∈ trace) ↔
        ∀ error, .finalEjectFailed error ∉ trace) := by
  obtain ⟨trace, reply, final, rest, ran⟩ :=
    @Run.exists_of_hasReturned _ _ _ _ _ (Session.runCommand stripEnv .pageEnd stripWorld
      (printingScript [{}, { incidents := [sheetAbsent] }, {}, {}, {}, {}])) (by decide +kernel)
  exact ⟨trace, reply, final, rest, ran, pageEnd_reply_iff stripEnv stripWorld _ _ _ _ _ ran⟩

/-- Whether an event is the return of an attempt. -/
def TraceEvent.isPrintReturned : TraceEvent → Bool
  | .printReturned => true
  | _ => false

theorem TraceEvent.eq_of_isPrintReturned {event : TraceEvent}
    (returned : event.isPrintReturned = true) : event = .printReturned := by
  cases event <;> first | rfl | exact absurd returned Bool.false_ne_true

/-- Whether a command was answered with success. -/
def isAnswered (run : Run PyExc World Tick TraceEvent Reply) : Bool :=
  match run.ending with
  | .returned (.ok _) _ _ => true
  | _ => false

theorem exists_of_isAnswered {run : Run PyExc World Tick TraceEvent Reply}
    (answered : isAnswered run = true) :
    ∃ trace result state rest, run = ⟨trace, .returned (.ok result) state rest⟩ := by
  obtain ⟨trace, ⟨reply, state, rest⟩ | ⟨error, state, rest⟩ | ⟨state⟩⟩ := run
  · cases reply with
    | ok result => exact ⟨trace, result, state, rest, rfl⟩
    | error text => exact absurd answered Bool.false_ne_true
  · exact absurd answered Bool.false_ne_true
  · exact absurd answered Bool.false_ne_true

/-- The error a command was answered with. -/
def refusalText (run : Run PyExc World Tick TraceEvent Reply) : Option String :=
  match run.ending with
  | .returned (.error text) _ _ => some text
  | _ => none

theorem exists_of_refusalText {run : Run PyExc World Tick TraceEvent Reply} {text : String}
    (refused : refusalText run = some text) :
    ∃ trace state rest, run = ⟨trace, .returned (.error text) state rest⟩ := by
  obtain ⟨trace, ⟨reply, state, rest⟩ | ⟨error, state, rest⟩ | ⟨state⟩⟩ := run
  · cases reply with
    | ok result => cases refused
    | error other =>
        obtain rfl := Option.some.inj refused
        exact ⟨trace, state, rest, rfl⟩
  · cases refused
  · cases refused

/-- The page is printed, and the write of the eject's query fails: the reply is an error. -/
theorem pageEnd_reply_eject_fails :
    stripWorld.session.page = some stripPage ∧ stripPage.Complete ∧
    ∃ trace text final rest,
      Session.runCommand stripEnv .pageEnd stripWorld
          (printingScript [{ bleakError := some "lost" }, {}]) =
        ⟨trace, .returned (.error text) final rest⟩ ∧
      .printReturned ∈ trace := by
  refine ⟨rfl, rfl, ?_⟩
  obtain ⟨trace, final, rest, ran⟩ :=
    @exists_of_refusalText (Session.runCommand stripEnv .pageEnd stripWorld
      (printingScript [{ bleakError := some "lost" }, {}]))
      "ConnectionError: BLE write failed: lost" (by decide +kernel)
  have printed : (Session.runCommand stripEnv .pageEnd stripWorld
      (printingScript [{ bleakError := some "lost" }, {}])).trace.any
        TraceEvent.isPrintReturned = true := by
    decide +kernel
  rw [ran] at printed
  obtain ⟨event, member, returned⟩ := List.any_eq_true.mp printed
  obtain rfl := TraceEvent.eq_of_isPrintReturned returned
  exact ⟨trace, _, final, rest, ran, member⟩

end Phomemo
