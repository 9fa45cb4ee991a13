import Phomemo.Async.History
import Phomemo.PageEnd.Reply

/-!
# The sheet a reprint starts on

After an interrupted attempt the old sheet has to be gone before the page is printed again.  It
is, as long as the paper query right after the lid closes is answered and the eject it leads to
does not give up.
-/

namespace Phomemo

open Async Coroutine

/-- An event by which the interrupted sheet is known to be gone. -/
def TraceEvent.SheetGone : TraceEvent → Prop
  | .ejected true => True
  | .paperRead (some .absent) => True
  | _ => False

instance : DecidablePred TraceEvent.SheetGone := fun event => by
  unfold TraceEvent.SheetGone
  split <;> infer_instance

/-- Whether an interrupted sheet is still unaccounted for. -/
def owed : List TraceEvent → Bool :=
  List.foldl (fun owed event =>
    match event with
    | .interrupted => true
    | event => owed && !decide event.SheetGone) false

theorem owed_concat (past : List TraceEvent) (event : TraceEvent) :
    owed (past ++ [event]) =
      match event with
      | .interrupted => true
      | event => owed past && !decide event.SheetGone := by
  simp [owed]

/-- Only an interruption makes a sheet owed. -/
theorem owed_concat_of_ne {past : List TraceEvent} {event : TraceEvent}
    (clear : owed past = false) (other : event ≠ .interrupted) :
    owed (past ++ [event]) = false := by
  rw [owed_concat]
  cases event <;> first | contradiction | simp [clear]

/-- What is owed stays so until the sheet is known to be gone. -/
theorem owed_append {past later : List TraceEvent} (owes : owed past = true)
    (stays : ∀ event ∈ later, ¬event.SheetGone) : owed (past ++ later) = true := by
  induction later generalizing past with
  | nil => simpa using owes
  | cons event later ih =>
      have here : owed (past ++ [event]) = true := by
        rw [owed_concat]
        cases event <;> simp [owes, stays _ List.mem_cons_self]
      have rest := ih here fun other member => stays other (List.mem_cons_of_mem _ member)
      simpa using rest

/-- Every print call so far was made with no sheet owed. -/
abbrev FreshPrints : List TraceEvent → Prop :=
  Throughout fun before event => ∀ call, event = .printCalled call → owed before = false

/-- The fresh sheet check is answered, and the eject it leads to succeeds. -/
def ChecksAnswered : TraceEvent → Prop
  | .sheetChecked answer => answer.isSome
  | .oldSheetEjected gone => gone = true
  | _ => True

instance : DecidablePred ChecksAnswered := fun event => by
  unfold ChecksAnswered
  split <;> infer_instance

theorem TraceEvent.Ordinary.ne_printCalled {event : TraceEvent} (ordinary : event.Ordinary) :
    event ≠ .interrupted ∧ ∀ call, event ≠ .printCalled call := by
  cases ordinary with
  | await kind => cases kind <;> exact ⟨nofun, nofun⟩
  | wire kind => cases kind <;> exact ⟨nofun, nofun⟩
  | connect kind => cases kind <;> exact ⟨nofun, nofun⟩
  | waits kind => cases kind <;> exact ⟨nofun, nofun⟩
  | writeFailed p => exact ⟨nofun, nofun⟩
  | wrote p address data => exact ⟨nofun, nofun⟩
  | dialed p address overlapped => exact ⟨nofun, nofun⟩
  | resolved asked found => exact ⟨nofun, nofun⟩
  | usedProfile p old new => exact ⟨nofun, nofun⟩
  | replacedPrinter old new => exact ⟨nofun, nofun⟩

section Attempts

variable {rely : TraceEvent → Prop}

theorem freshPrints_kept : KeptByOrdinary rely FreshPrints :=
  fun _ _ ordinary fresh _ => fresh.concat fun call same =>
    absurd same (ordinary.ne_printCalled.2 call)

/-- No sheet is owed, and none was at any print call. -/
structure Clear (past : List TraceEvent) : Prop where
  fresh : FreshPrints past
  clear : owed past = false

theorem Clear.concat {past : List TraceEvent} {event : TraceEvent} (clear : Clear past)
    (other : event ≠ .interrupted) : Clear (past ++ [event]) where
  fresh := clear.fresh.concat fun _ _ => clear.clear
  clear := owed_concat_of_ne clear.clear other

theorem clear_kept : KeptByOrdinary rely Clear :=
  fun _ _ ordinary clear _ => clear.concat ordinary.ne_printCalled.1

/-- The last event shows that the sheet is gone. -/
theorem clear_of_last {past : List TraceEvent} {event : TraceEvent} (fresh : FreshPrints past)
    (last : past.getLast? = some event) (gone : event.SheetGone) : Clear past where
  fresh := fresh
  clear := by
    obtain ⟨before, rfl⟩ := List.getLast?_eq_some_iff.mp last
    rw [owed_concat]
    cases event <;> first | exact gone.elim | simp [gone]

/-- The check right after the lid closed leaves no sheet owed. -/
theorem dropOldSheet_clears (p : PrinterId) {w : World} {past : List TraceEvent}
    (fresh : FreshPrints past) :
    Ensures ChecksAnswered (Session.dropOldSheet p)
      ⟨fun _ _ past => Clear past, fun _ _ past => FreshPrints past, fun _ past => FreshPrints past⟩
      w past := by
  have kept : KeptByOrdinary ChecksAnswered FreshPrints := freshPrints_kept
  have linked := kept.link p
  have asks : Ensures ChecksAnswered (excepting (fun exc => exc.IsConnectionError)
      (Printer.queryPaper p))
      ⟨fun answer _ past => FreshPrints past ∧ ∀ state, answer = some (some state) →
          past.getLast? = some (.paperRead (some state)),
        fun _ _ past => FreshPrints past, fun _ past => FreshPrints past⟩ w past := by
    apply Ensures.handle
    apply Ensures.seq (linked.ensures_queryPaper .any fresh)
    · rintro answer w past ⟨fresh, last⟩
      apply Ensures.pure
      refine ⟨fresh, fun state same => ?_⟩
      rw [last, Option.some.inj same]
    · rintro exc w past ⟨fresh, -⟩
      apply Ensures.ite
      · exact fun _ => Ensures.pure ⟨fresh, nofun⟩
      · exact fun _ => Ensures.raise fresh
    · exact fun _ _ => id
  apply Ensures.seq asks
  · rintro paper w past ⟨fresh, last⟩
    apply Ensures.emit_bind
    intro answered
    have checked : FreshPrints (past ++ [.sheetChecked paper.join]) := fresh.concat nofun
    obtain ⟨state, known⟩ := Option.isSome_iff_exists.mp answered
    obtain rfl : paper = some (some state) := by
      cases paper with
      | none => cases known
      | some answer => exact congrArg some known
    cases state with
    | absent =>
        have gone := clear_of_last fresh (last .absent rfl) trivial
        apply Ensures.ite
        · exact nofun
        · exact fun _ => Ensures.pure (gone.concat nofun)
    | present =>
        apply Ensures.ite
        · intro _
          apply Ensures.bind
          apply Ensures.handle
          apply (linked.ensures_ejectPaper .any checked).mono
          · rintro gone w past ⟨fresh, last⟩
            apply Ensures.emit
            intro ejected
            obtain rfl : gone = true := ejected
            exact (clear_of_last fresh last trivial).concat nofun
          · rintro exc w past ⟨fresh, -⟩
            apply Ensures.emit_bind
            exact fun _ => Ensures.raise (fresh.concat nofun)
          · exact fun _ _ => id
        · exact fun present => absurd rfl present
  · exact fun _ _ _ => id
  · exact fun _ _ => id

/-- The wait for a fresh sheet ends with no sheet owed. -/
theorem waitForFreshSheet_clears (env : Env) (emptyReason : WaitingReason) {w : World}
    {past : List TraceEvent} (fresh : FreshPrints past) :
    Ensures ChecksAnswered (Session.waitForFreshSheet env emptyReason)
      ⟨fun _ _ past => Clear past, fun _ _ past => FreshPrints past, fun _ past => FreshPrints past⟩
      w past := by
  have kept : KeptByOrdinary ChecksAnswered FreshPrints := freshPrints_kept
  have clearKept : KeptByOrdinary ChecksAnswered Clear := clear_kept
  have waits := kept.waits env
  have freshOf : ∀ (error : PyExc) (w : World) (past : List TraceEvent), FreshPrints past →
      True → FreshPrints past := fun _ _ _ fresh _ => fresh
  have links : Keeps ChecksAnswered (fun _ past => FreshPrints past) (Session.awaitLink env) :=
    @WaitStable.awaitLink _ _ _ [] waits
  apply Upholds.seq links fresh
  · intro state w past fresh
    apply Ensures.seq (@WaitStable.ensures_requirePrinter _ _ _ [] waits _ _ fresh)
    · intro p w past fresh
      have lids : Keeps ChecksAnswered (fun _ past => FreshPrints past)
          (Session.awaitLidClosed env p state) :=
        waits.awaitLidClosed (List.mem_cons_self (l := [])) state
      apply Upholds.seq lids fresh
      · intro _ w past fresh
        apply Ensures.seq (dropOldSheet_clears p fresh)
        · intro _ w past clear
          have readies : Keeps ChecksAnswered (fun _ past => Clear past)
              (Session.waitReady env env.settleSeconds emptyReason) :=
            @WaitStable.waitReady _ _ _ [] (clearKept.waits env) _ _
          exact readies.ensures clear (fun _ _ _ => id) (fun _ _ _ clear _ => clear.fresh)
            (fun _ _ clear => clear.fresh)
        · exact fun _ _ _ => id
        · exact fun _ _ => id
      · exact freshOf
      · exact fun _ _ => id
    · exact fun _ _ _ => id
    · exact fun _ _ => id
  · exact freshOf
  · exact fun _ _ => id

/-- An attempt is recovered from with no sheet owed, or the page ends. -/
theorem recover_clears (env : Env) (p : PrinterId) (exc : PyExc) {w : World}
    {past : List TraceEvent} (clear : Clear past) :
    Ensures ChecksAnswered (Session.recover env p exc)
      ⟨fun _ _ past => Clear past, fun _ _ past => FreshPrints past, fun _ past => FreshPrints past⟩
      w past := by
  have kept : KeptByOrdinary ChecksAnswered FreshPrints := freshPrints_kept
  have clearKept : KeptByOrdinary ChecksAnswered Clear := clear_kept
  have waits := kept.waits env
  have interrupts : FreshPrints (past ++ [.interrupted]) := clear.fresh.concat nofun
  have recovers : Keeps ChecksAnswered (fun _ past => FreshPrints past)
      (Session.recoverLink env) := @WaitStable.recoverLink _ _ _ [p] waits
  have remainder : Keeps ChecksAnswered (fun _ past => FreshPrints past)
      (Session.ejectRemainder p) := waits.ejectRemainder (List.mem_cons_self (l := []))
  have pauses : Keeps ChecksAnswered (fun _ past => Clear past) pause := clearKept.idle.pause
  have ejects : Keeps ChecksAnswered (fun _ past => Clear past) (Printer.ejectPaper p) :=
    (clearKept.link p).ejectPaper .any
  have freshOf : ∀ (error : PyExc) (w : World) (past : List TraceEvent), FreshPrints past →
      True → FreshPrints past := fun _ _ _ fresh _ => fresh
  apply ensures_recover
  · intro _ _
    apply Ensures.emit_bind
    intro _
    apply Upholds.seq recovers interrupts
    · intro _ w past fresh
      apply Upholds.seq remainder fresh
      · exact fun _ _ _ fresh => waitForFreshSheet_clears env _ fresh
      · exact freshOf
      · exact fun _ _ => id
    · exact freshOf
    · exact fun _ _ => id
  · intro _
    apply Upholds.seq pauses clear
    · intro _ w past clear
      apply Upholds.seq ejects clear
      · exact fun _ _ _ clear => Ensures.raise clear.fresh
      · exact fun _ _ _ clear _ => clear.fresh
      · exact fun _ _ clear => clear.fresh
    · exact fun _ _ _ clear _ => clear.fresh
    · exact fun _ _ clear => clear.fresh
  · intro _
    apply Ensures.emit_bind
    exact fun _ => waitForFreshSheet_clears env _ interrupts
  · exact fun _ _ => clear.fresh
  · exact fun _ => clear.fresh

theorem printPage_clears (p : PrinterId) (bitmap : Bytes) (height : Nat) (density : Density) :
    Keeps ChecksAnswered (fun _ past => Clear past)
      (Session.printPage p bitmap height density) := by
  have kept : KeptByOrdinary ChecksAnswered Clear := clear_kept
  intro w past clear
  apply Ensures.modify_bind
  apply Ensures.bind
  apply (kept.stream p).ensures_printBitmap WireStable.transferFails_any
    (fun _ _ => kept.idle.onProgress p height)
  · exact fun _ _ _ _ _ _ _ _ => clear.concat nofun
  · exact fun _ _ _ _ clear => ⟨clear, trivial⟩
  · exact fun _ _ _ clear => ⟨clear, trivial⟩
  · intro w past clear _
    have printed : Clear (past ++ [.printReturned]) := clear.concat nofun
    apply Ensures.read_bind
    apply Ensures.ite
    · exact fun _ => kept.idle.sendEvent (.progress 100) _ _ printed
    · exact fun _ => Ensures.pure printed
  · exact fun _ _ _ clear _ => ⟨clear, trivial⟩
  · exact fun _ _ => id

theorem printAttempts_clears (env : Env) (p : PrinterId) (bitmap : Bytes) (height : Nat)
    (density : Density) {w : World} {past : List TraceEvent} (clear : Clear past) :
    Ensures ChecksAnswered (Session.printAttempts env p bitmap height density)
      ⟨fun _ _ past => FreshPrints past, fun _ _ past => FreshPrints past,
        fun _ past => FreshPrints past⟩ w past := by
  apply Ensures.forever (fun _ past => Clear past) (fun _ _ clear => clear.fresh) _ clear
  intro w past clear
  apply Ensures.handle
  apply Upholds.seq (printPage_clears p bitmap height density) clear
  · exact fun _ _ _ clear => Ensures.pure clear.fresh
  · intro exc w past clear _
    apply Ensures.seq (recover_clears env p exc clear)
    · exact fun _ _ _ clear => Ensures.pure clear
    · exact fun _ _ _ => id
    · exact fun _ _ => id
  · exact fun _ _ clear => clear.fresh

theorem printComplete_clears (env : Env) (p : PrinterId) (page : PageBuffer) {w : World}
    {past : List TraceEvent} (clear : Clear past) :
    Ensures ChecksAnswered (Session.printComplete env p page)
      ⟨fun _ _ past => FreshPrints past, fun _ _ past => FreshPrints past,
        fun _ past => FreshPrints past⟩ w past := by
  have kept : KeptByOrdinary ChecksAnswered FreshPrints := freshPrints_kept
  have clearKept : KeptByOrdinary ChecksAnswered Clear := clear_kept
  have prepares := clearKept.idle.preparedPage env p page
  have ejects : Keeps ChecksAnswered (fun _ past => FreshPrints past) (Printer.ejectPaper p) :=
    (kept.link p).ejectPaper .any
  apply Upholds.seq prepares clear
  · rintro ⟨bitmap, height⟩ w past clear
    apply Ensures.seq (printAttempts_clears env p bitmap height page.density clear)
    · intro _ w past fresh
      apply Ensures.bind
      apply Ensures.handle
      apply Upholds.seq ejects fresh
      · exact fun _ _ _ fresh => Ensures.pure (Ensures.pure fresh)
      · intro error w past fresh _
        apply Ensures.emit_bind
        exact fun _ => Ensures.raise (fresh.concat nofun)
      · exact fun _ _ => id
    · exact fun _ _ _ => id
    · exact fun _ _ => id
  · exact fun _ _ _ clear _ => clear.fresh
  · exact fun _ _ clear => clear.fresh

theorem pageEnd_clears (env : Env) (w : World) :
    Ensures ChecksAnswered (Session.runCommand env .pageEnd)
      ⟨fun _ _ past => FreshPrints past, fun _ _ past => FreshPrints past,
        fun _ past => FreshPrints past⟩ w [] := by
  have kept : KeptByOrdinary ChecksAnswered FreshPrints := freshPrints_kept
  have start : Clear [] := ⟨throughout_nil, rfl⟩
  have began : Clear ([] ++ [commandStart w .pageEnd]) := start.concat nofun
  have finishes : ∀ reply w past, FreshPrints past →
      Ensures ChecksAnswered (answer .pageEnd reply)
        ⟨fun _ _ past => FreshPrints past, fun _ _ past => FreshPrints past,
          fun _ past => FreshPrints past⟩ w past := by
    intro reply w past fresh
    apply (kept.idle.ensures_answer (fresh.concat nofun)).mono
    · rintro _ _ past ⟨-, _, fresh, -⟩
      exact fresh
    · exact fun _ _ _ => False.elim
    · exact fun _ _ => id
  apply ensures_runCommand
  intro _
  apply ensures_cmdPageEnd
  · exact fun _ text => finishes _ _ _ began.fresh
  · intro page p _
    apply (printComplete_clears env p page began).mono
    · exact fun result w past fresh => finishes _ _ past fresh
    · exact fun error w past fresh => finishes _ _ past fresh
    · exact fun _ _ => id

end Attempts

/-- A page interrupted and printed again has its old sheet accounted for in between, when every
check right after the lid closed is answered and every eject it leads to succeeds. -/
theorem reprint_on_fresh_sheet (env : Env) (w : World) (script : List Tick)
    (answered : ∀ answer,
      .sheetChecked answer ∈ (Session.runCommand env .pageEnd w script).trace → answer.isSome)
    (ejected : ∀ gone,
      .oldSheetEjected gone ∈ (Session.runCommand env .pageEnd w script).trace → gone = true)
    (before middle after : List TraceEvent) (call : PrintCall)
    (split : (Session.runCommand env .pageEnd w script).trace =
      before ++ .interrupted :: middle ++ .printCalled call :: after) :
    ∃ event ∈ middle, event.SheetGone := by
  have relied : ∀ event ∈ (Session.runCommand env .pageEnd w script).trace,
      ChecksAnswered event := by
    intro event member
    cases event <;> first | exact trivial | exact answered _ member | exact ejected _ member
  have fresh := (pageEnd_clears env w).always relied
  have clear := fresh (before ++ .interrupted :: middle) _ after split call rfl
  by_contra none
  have stays : owed (before ++ [.interrupted] ++ middle) = true := by
    apply owed_append
    · rw [owed_concat]
    · exact fun event member gone => none ⟨event, member, gone⟩
  rw [List.append_assoc, List.singleton_append, clear] at stays
  exact Bool.false_ne_true stays

/-! ## An interrupted page of one row -/

/-- Whether an event is an interruption. -/
def TraceEvent.isInterrupted : TraceEvent → Bool
  | .interrupted => true
  | _ => false

/-- Whether an event is a print call. -/
def TraceEvent.isPrintCalled : TraceEvent → Bool
  | .printCalled _ => true
  | _ => false

/-- Whether an event is the eject of an old sheet. -/
def TraceEvent.isOldSheetEjected : TraceEvent → Bool
  | .oldSheetEjected gone => gone
  | _ => false

theorem TraceEvent.eq_of_isInterrupted {event : TraceEvent} (is : event.isInterrupted = true) :
    event = .interrupted := by
  cases event <;> first | rfl | cases is

theorem TraceEvent.eq_of_isPrintCalled {event : TraceEvent} (is : event.isPrintCalled = true) :
    ∃ call, event = .printCalled call := by
  cases event <;> first | exact ⟨_, rfl⟩ | cases is

/-- The first write fails; the printer is connected again and found with the lid closed, and the
paper query is answered with `sensed`. -/
def interruptedScript (sensed : List Incident) (later : List Tick) : List Tick :=
  {} :: {} :: { bleakError := some "lost" } :: {} :: { found := some ⟨"S", some "S"⟩ } :: {} ::
    {} :: {} :: {} :: { incidents := [lidClosed] } :: {} :: { incidents := sensed } :: later

/-- The answers of a readiness check that finds a sheet. -/
def readyAnswers : List Tick :=
  [{}, { incidents := [lidClosed] }, {}, { incidents := [sheetPresent] }]

/-- The answers to an eject: the sheet is fed out until the sensor reports it gone. -/
def ejectAnswers : List Tick :=
  [{}, { incidents := [sheetPresent] }, {}, { incidents := [sheetAbsent] }, {}]

/-- A record with an interruption and a print call at these places, split there. -/
theorem exists_reprint {past : List TraceEvent} (i j : Nat)
    (here : past[i]?.any TraceEvent.isInterrupted = true)
    (there : (past.drop (i + 1))[j]?.any TraceEvent.isPrintCalled = true) :
    ∃ call, past = past.take i ++ .interrupted :: (past.drop (i + 1)).take j ++
      .printCalled call :: (past.drop (i + 1)).drop (j + 1) := by
  obtain ⟨a, b, first, second, split⟩ := exists_split_at_two i j here there
  obtain rfl := TraceEvent.eq_of_isInterrupted first
  obtain ⟨call, rfl⟩ := TraceEvent.eq_of_isPrintCalled second
  exact ⟨call, split⟩

/-- The page is interrupted, its sheet found gone, or found in and ejected, and the page printed on
the next one. -/
theorem reprint_on_fresh_sheet_strip :
    (∃ before middle call after,
      (Session.runCommand stripEnv .pageEnd stripWorld
          (interruptedScript [sheetAbsent] readyAnswers)).trace =
        before ++ .interrupted :: middle ++ .printCalled call :: after ∧
      ∃ event ∈ middle, event.SheetGone) ∧
    ∃ before middle call after,
      (Session.runCommand stripEnv .pageEnd stripWorld
          (interruptedScript [sheetPresent] (ejectAnswers ++ readyAnswers))).trace =
        before ++ .interrupted :: middle ++ .printCalled call :: after ∧
      middle.any TraceEvent.isOldSheetEjected = true ∧
      ∃ event ∈ middle, event.SheetGone := by
  constructor
  · obtain ⟨call, split⟩ := @exists_reprint
      (Session.runCommand stripEnv .pageEnd stripWorld
        (interruptedScript [sheetAbsent] readyAnswers)).trace 7 25 (by decide +kernel)
      (by decide +kernel)
    have checks : ∀ event ∈ (Session.runCommand stripEnv .pageEnd stripWorld
        (interruptedScript [sheetAbsent] readyAnswers)).trace, ChecksAnswered event := by
      decide +kernel
    exact ⟨_, _, call, _, split, reprint_on_fresh_sheet stripEnv stripWorld
      (interruptedScript [sheetAbsent] readyAnswers) (fun answer member => checks _ member)
      (fun gone member => checks _ member) _ _ _ call split⟩
  · obtain ⟨call, split⟩ := @exists_reprint
      (Session.runCommand stripEnv .pageEnd stripWorld
        (interruptedScript [sheetPresent] (ejectAnswers ++ readyAnswers))).trace 7 37
      (by decide +kernel) (by decide +kernel)
    have checks : ∀ event ∈ (Session.runCommand stripEnv .pageEnd stripWorld
        (interruptedScript [sheetPresent] (ejectAnswers ++ readyAnswers))).trace,
        ChecksAnswered event := by
      decide +kernel
    exact ⟨_, _, call, _, split, by decide +kernel, reprint_on_fresh_sheet stripEnv stripWorld
      (interruptedScript [sheetPresent] (ejectAnswers ++ readyAnswers))
      (fun answer member => checks _ member) (fun gone member => checks _ member) _ _ _ call split⟩

/-- The paper query right after the lid closed is not answered, and the page is printed again on
the sheet the interrupted attempt was printing on. -/
theorem reprint_on_old_sheet :
    ∃ before middle call after,
      (Session.runCommand stripEnv .pageEnd stripWorld
          (interruptedScript [] readyAnswers)).trace =
        before ++ .interrupted :: middle ++ .printCalled call :: after ∧
      ∀ event ∈ middle, ¬event.SheetGone := by
  obtain ⟨call, split⟩ := @exists_reprint
    (Session.runCommand stripEnv .pageEnd stripWorld (interruptedScript [] readyAnswers)).trace 7 25
    (by decide +kernel) (by decide +kernel)
  exact ⟨_, _, call, _, split, by decide +kernel⟩

end Phomemo
