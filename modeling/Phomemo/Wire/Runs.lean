import Phomemo.Bridge.NamedModel
import Phomemo.PageEnd.Recovery
import Phomemo.Wire.Streaming

/-!
# Lines in sync

Over every run of the bridge, a printer whose link is up has read whole commands since it was
dialed whenever no command is under way: those sent on their own, and of each page it was to print
all of it, what a stop made of it, or nothing.
-/

namespace Phomemo

open Async Coroutine

/-! ## One attempt at a page -/

theorem Torn.lowered {p : PrinterId} {w after : World} {past : List TraceEvent}
    (torn : Torn p w past) (lowered : w.Lowered after)
    (printer : after.bridge.printer = w.bridge.printer) : Torn p after past :=
  ⟨(Apart.stable p).lowered w after past lowered torn.apart, printer.trans torn.held, torn.onPage⟩

/-- An event of which nothing goes on the line. -/
theorem Torn.silent {p : PrinterId} {w : World} {past : List TraceEvent} {event : TraceEvent}
    (torn : Torn p w past) (silent : event.Silent) : Torn p w (past ++ [event]) := by
  refine ⟨(Apart.stable p).silent w past event silent torn.apart, torn.held, ?_⟩
  rw [lineTo_silent p past silent]
  exact torn.onPage

section Attempts

variable {env : Env} {p : PrinterId} {w : World} {past : List TraceEvent}

/-- The page is called for: nothing of it is on the line yet. -/
theorem InSync.called (inSync : InSync w past) {call : PrintCall} (linked : call.linked = true)
    (up : w.isConnected call.printer = true) (held : w.bridge.printer = some call.printer) :
    ∃ calls inputs, Streaming call.printer
      (w.printers call.printer).transport.effectiveChunkBytes calls call inputs [] w
      (past ++ [.printCalled call]) := by
  obtain ⟨inputs, conversation, bytes⟩ := inSync.whole call.printer up
  refine ⟨(lineTo call.printer past).calls, inputs,
    ⟨inSync.usable, fun q other connected => ?_⟩, held, .inr rfl, ?_⟩
  · rw [lineTo_printCalled_other (fun same => other same.1.symm)]
    exact inSync.whole q connected
  · rw [lineTo_printCalled past linked]
    exact ⟨rfl, conversation, by rw [bytes, List.append_nil]⟩

/-- A page that is called for without a link is not begun. -/
theorem InSync.uncalled (inSync : InSync w past) {call : PrintCall}
    (unlinked : call.linked = false) : InSync w (past ++ [.printCalled call]) where
  usable := inSync.usable
  whole := fun q connected => by
    rw [lineTo_printCalled_other (fun same => Bool.false_ne_true (unlinked.symm.trans same.2))]
    exact inSync.whole q connected

/-- The printer of a torn line is disconnected first of all. -/
theorem Torn.ensures_disconnect {rely : TraceEvent → Prop} (torn : Torn p w past) :
    Ensures rely (BleTransport.disconnect p) ⟨fun _ => InSync, fun _ => InSync, InSync⟩
      w past := by
  apply Ensures.read_bind
  apply Ensures.ite
  · intro _
    have lowered : InSync (w.setConnected p false) past := by
      have apart := (Apart.stable p).lowered w _ past (World.lowered_setConnected p) torn.apart
      apply apart.down
      rw [World.isConnected, World.setConnected, World.setTransport_printers, if_pos rfl]
      rfl
    apply Ensures.modify_bind
    apply ensures_tick_bind lowered
    intro answer _
    have gone := InSync.stable.lowered _ _ _ (World.lowered_hangUp p)
      (InSync.stable.awaken answer lowered)
    apply Ensures.modify_bind
    cases answer.bleakError with
    | none => exact Ensures.pure gone
    | some text =>
        apply Ensures.emit_bind
        exact fun _ => Ensures.raise (InSync.stable.silent _ _ _ trivial gone)
  · intro absent
    apply Ensures.pure
    apply torn.apart.down
    rw [World.isConnected, Transport.isConnected, Bool.eq_false_of_not_eq_true absent,
      Bool.and_false]

variable (fleet : FleetStable env Orderly InSync Dialed)

include fleet in
/-- A page on its line, with its listeners and the wait for the motor stop. -/
theorem PageJob.ensures_job {call : PrintCall} {profile : PrinterProfile} {level : Option Density}
    {blocks : List Block} {job : Printer.Job} (paged : PageJob call profile level blocks job)
    {chunk : Int} {calls : List PrintCall} {inputs : List PrinterInput}
    (streaming : Streaming p chunk calls call inputs [] w past) {abort : World → Bool}
    {fraction : ℚ} {onProgress : Nat → Nat → Py Unit}
    (reports : ∀ sent total (inv : World → List TraceEvent → Prop), IdleStable Orderly inv →
      Keeps Orderly inv (onProgress sent total)) :
    Ensures Orderly (do
        let (entry, slot) ← Printer.armJob p
        andFinally
          (do
            Printer.transfer p job abort slot fraction onProgress
            Printer.awaitCompletion p entry)
          (Printer.disarmJob p entry slot)
        Coroutine.emit .printReturned) (Transfers Unit p call.bitmap call.height) w past := by
  have unbegun : ∀ {w past}, Streaming p chunk calls call inputs [] w past → InSync w past :=
    fun streaming => streaming.finish ⟨[], .nothing, fun _ member => absurd member List.not_mem_nil,
      rfl⟩
  have arms : Keeps Orderly (Streaming p chunk calls call inputs []) (Printer.armJob p) :=
    keeps_armJob fun _ _ _ quiet streaming => streaming.move quiet.lowered quiet.printer
  have delivered := DeliveredPage.stable p call.bitmap call.height
  have completes : ∀ entry, Keeps Orderly (DeliveredPage p call.bitmap call.height)
      (Printer.awaitCompletion p entry) :=
    fun entry => (DeliveredPage.wire fleet p call.bitmap call.height).awaitCompletion
      (WireStable.transferFails_any : WireStable.TransferFails _ _ _ fun _ => false) entry
  have settles : ∀ entry slot, Upholds Orderly (DeliveredPage p call.bitmap call.height)
      (fun _ => False) (Printer.disarmJob p entry slot) :=
    fun entry slot => keeps_disarmJob
      (fun w after past quiet => delivered.lowered w after past quiet.lowered) entry slot
  have disarms : ∀ entry slot, Upholds Orderly InSync (fun _ => False)
      (Printer.disarmJob p entry slot) :=
    fun entry slot => keeps_disarmJob
      (fun w after past quiet => InSync.stable.lowered w after past quiet.lowered) entry slot
  have cleans : ∀ entry slot, Upholds Orderly (Torn p) (fun _ => False)
      (Printer.disarmJob p entry slot) :=
    fun entry slot => keeps_disarmJob
      (fun _ _ _ quiet torn => torn.lowered quiet.lowered quiet.printer) entry slot
  apply Upholds.seq arms streaming
  · rintro ⟨entry, slot⟩ w past streaming
    have restarted : Streaming p (w.printers p).transport.effectiveChunkBytes calls call inputs []
        w past := { streaming with steady := .inr rfl }
    apply Ensures.bind
    apply Ensures.andFinally
    apply Ensures.seq (paged.ensures_transfer reports restarted rfl)
    · intro _ w past page
      apply (completes entry).ensures page
      · intro _ w past page
        apply (settles entry slot).ensures page
        · intro _ w past page
          apply Ensures.emit
          exact fun _ => delivered.silent w past _ trivial page
        · exact fun _ _ _ _ => False.elim
        · exact fun _ _ page => page.waits
      · intro _ w past page _
        apply (disarms entry slot).ensures page.toInSync
        · exact fun _ _ _ => .inl
        · exact fun _ _ _ _ => False.elim
        · exact fun _ _ => InSync.waits
      · exact fun _ _ page => page.waits
    · rintro error w past (inSync | ⟨ranOut, torn⟩)
      · apply (disarms entry slot).ensures inSync
        · exact fun _ _ _ => .inl
        · exact fun _ _ _ _ => False.elim
        · exact fun _ _ => InSync.waits
      · apply (cleans entry slot).ensures torn
        · exact fun _ _ _ torn => .inr ⟨ranOut, torn⟩
        · exact fun _ _ _ _ => False.elim
        · exact fun _ _ => Torn.waits
    · exact fun _ _ => id
  · exact fun _ _ _ streaming _ => .inl (unbegun streaming)
  · exact fun _ _ streaming => (unbegun streaming).waits

include fleet in
theorem ensures_printBitmap (inSync : InSync w past) (bitmap : Bytes) (height : Nat)
    (density : Option Density) {abort : World → Bool} {onProgress : Nat → Nat → Py Unit}
    (reports : ∀ sent total (inv : World → List TraceEvent → Prop), IdleStable Orderly inv →
      Keeps Orderly inv (onProgress sent total)) :
    Ensures Orderly (Printer.printBitmap p bitmap height density abort onProgress)
      (Transfers Unit p bitmap height) w past := by
  apply Ensures.read_bind
  apply Ensures.emit_bind
  intro orderly
  apply Ensures.ite
  · intro linked
    obtain ⟨held, size⟩ := orderly linked
    obtain ⟨fits, -⟩ := (inSync.usable p).profile
    obtain ⟨blocks, cut, built⟩ := buildRasterStream_eq (fits.densityFits density)
      (fits.bandsFit height) size .normal 20
    obtain ⟨calls, inputs, streaming⟩ := inSync.called linked linked held
    dsimp only at built
    rw [built]
    exact PageJob.ensures_job fleet ⟨rfl, fits, cut, rfl, rfl⟩ streaming reports
  · intro unlinked
    apply Ensures.raise
    exact .inl (inSync.uncalled (Bool.eq_false_of_not_eq_true unlinked))

include fleet in
theorem ensures_printPage (inSync : InSync w past) (bitmap : Bytes) (height : Nat)
    (density : Density) :
    Ensures Orderly (Session.printPage p bitmap height density) (Transfers Unit p bitmap height)
      w past := by
  have reset : InSync (w.setSession fun session => { session with lastPercent := -1 }) past :=
    fleet.toLowerStable.aside inSync rfl
  have pushes : Upholds Orderly (DeliveredPage p bitmap height) (fun _ => False)
      (Session.sendEvent (.progress 100)) := (DeliveredPage.stable p bitmap height).idle.sendEvent _
  apply Ensures.modify_bind
  apply Ensures.seq (ensures_printBitmap fleet reset bitmap height (some density)
    fun _ _ _ idle => idle.onProgress p height)
  · intro _ w past page
    apply Ensures.read_bind
    apply Ensures.ite
    · intro _
      apply pushes.ensures page
      · exact fun _ _ _ => id
      · exact fun _ _ _ _ => False.elim
      · exact fun _ _ page => page.waits
    · exact fun _ => Ensures.pure page
  · exact fun _ _ _ => id
  · exact fun _ _ => id

include fleet in
/-- A reconnect begins a new line. -/
theorem Torn.ensures_recoverLink (torn : Torn p w past) :
    Ensures Orderly (Session.recoverLink env) ⟨fun _ => InSync, fun _ => InSync, OnTrack⟩
      w past := by
  apply Ensures.read_bind
  rw [torn.held]
  dsimp only
  apply Ensures.handle
  apply Ensures.seq torn.ensures_disconnect
  · intro _ w past inSync
    apply (fleet.device p).connect.ensures inSync
    · exact fun _ _ _ => id
    · intro exc w past inSync _
      apply Ensures.ite
      · intro _
        apply Ensures.emit
        exact fun _ => fleet.silent w past _ trivial inSync
      · exact fun _ => Ensures.raise inSync
    · exact fun _ _ => InSync.waits
  · intro exc w past inSync
    apply Ensures.ite
    · intro _
      apply Ensures.emit
      exact fun _ => fleet.silent w past _ trivial inSync
    · exact fun _ => Ensures.raise inSync
  · exact fun _ _ => InSync.waits

include fleet in
/-- After an interrupted attempt all lines that are up are whole again. -/
theorem ensures_recover_inSync {error : PyExc}
    (ended : InSync w past ∨ (∃ text, error = .sheetRanOut text) ∧ Torn p w past) :
    Ensures Orderly (Session.recover env p error) ⟨fun _ => InSync, fun _ => InSync, OnTrack⟩
      w past := by
  rcases ended with inSync | ⟨⟨text, rfl⟩, torn⟩
  · have interrupts : ∀ w past, InSync w past → Orderly .interrupted →
        InSync w (past ++ [.interrupted]) :=
      fun w past inSync _ => fleet.silent w past _ trivial inSync
    apply (fleet.waits.recover (List.mem_cons_self (l := [])) interrupts error).ensures inSync
    · exact fun _ _ _ => id
    · exact fun _ _ _ inSync _ => inSync
    · exact fun _ _ => InSync.waits
  · have goesOn : Keeps Orderly InSync (do
        Session.ejectRemainder p
        Session.waitForFreshSheet env .shortSheet) := by
      apply Upholds.bind (fleet.waits.ejectRemainder (List.mem_cons_self (l := [])))
      exact fun _ => @WaitStable.waitForFreshSheet env _ _ [] fleet.waits _
    apply Ensures.emit_bind
    intro _
    have noted : Torn p w (past ++ [.interrupted]) := torn.silent trivial
    apply Ensures.seq (noted.ensures_recoverLink fleet)
    · intro _ w past inSync
      apply goesOn.ensures inSync
      · exact fun _ _ _ => id
      · exact fun _ _ _ inSync _ => inSync
      · exact fun _ _ => InSync.waits
    · exact fun _ _ _ => id
    · exact fun _ _ => id

include fleet in
theorem ensures_printAttempts (inSync : InSync w past) (bitmap : Bytes) (height : Nat)
    (density : Density) :
    Ensures Orderly (Session.printAttempts env p bitmap height density)
      ⟨fun _ => DeliveredPage p bitmap height, fun _ => InSync, OnTrack⟩ w past := by
  apply Ensures.forever InSync _ _ inSync
  · exact fun _ _ => InSync.waits
  · intro w past inSync
    apply Ensures.handle
    apply Ensures.seq (ensures_printPage fleet inSync bitmap height density)
    · exact fun _ _ _ page => Ensures.pure page
    · intro error w past ended
      apply Ensures.seq (ensures_recover_inSync fleet ended)
      · exact fun _ _ _ inSync => Ensures.pure inSync
      · exact fun _ _ _ => id
      · exact fun _ _ => id
    · exact fun _ _ => id

/-- The page in progress, prepared for the model of a printer, was delivered to it. -/
def PageBuffer.DeliveredTo (page : PageBuffer) (env : Env) (profile : PrinterProfile)
    (p : PrinterId) (w : World) (past : List TraceEvent) : Prop :=
  ∃ image bitmap,
    preparePage env.diffuse page.image profile page.mediaLengthMm page.tone page.rotate =
      .ok image ∧
    imageToBitmap image = .ok bitmap ∧ DeliveredPage p bitmap image.height w past

include fleet in
theorem ensures_printComplete (inSync : InSync w past) (page : PageBuffer) :
    Ensures Orderly (Session.printComplete env p page)
      ⟨fun result after past => result = [("impressions", .int 1)] ∧
          page.DeliveredTo env (w.printers p).profile p after past,
        fun _ => InSync, OnTrack⟩ w past := by
  apply Ensures.seq (fleet.idle.ensures_preparedPage env p page inSync)
  · rintro ⟨bitmap, height⟩ w' past ⟨inSync, image, prepared, packed, rfl⟩
    have ejects : Keeps Orderly (DeliveredPage p bitmap image.height) (Printer.ejectPaper p) :=
      (DeliveredPage.wire fleet p bitmap image.height).ejectPaper .any
    apply Ensures.seq (ensures_printAttempts fleet inSync bitmap image.height page.density)
    · intro _ w past page
      apply Ensures.bind
      apply Ensures.handle
      apply Upholds.seq ejects page
      · exact fun _ _ _ page =>
          Ensures.pure (Ensures.pure ⟨rfl, image, bitmap, prepared, packed, page⟩)
      · intro error w past page _
        apply Ensures.emit_bind
        exact fun _ => Ensures.raise (fleet.silent w past _ trivial page.toInSync)
      · exact fun _ _ page => page.waits
    · exact fun _ _ _ => id
    · exact fun _ _ => id
  · exact fun _ _ _ failed => failed.1
  · exact fun _ _ => InSync.waits

include fleet in
/-- A `page_end` that returns has delivered the page in progress to the bridge's printer. -/
theorem ensures_cmdPageEnd_delivers (inSync : InSync w past) :
    Ensures Orderly (Session.cmdPageEnd env)
      ⟨fun result after past => result = [("impressions", .int 1)] ∧
          ∃ page p, w.Printable page p ∧ page.DeliveredTo env (w.printers p).profile p after past,
        fun _ => InSync, OnTrack⟩ w past := by
  apply ensures_cmdPageEnd
  · exact fun _ _ => inSync
  · intro page p printable
    have started : InSync (w.setSession fun session => { session with usedLink := true }) past :=
      fleet.toLowerStable.aside inSync rfl
    apply (ensures_printComplete fleet started page).mono
    · rintro _ w past ⟨counted, image, bitmap, prepared, packed, delivered⟩
      exact ⟨counted, page, p, printable, image, bitmap, prepared, packed,
        (DeliveredPage.stable p bitmap image.height).aside delivered rfl⟩
    · exact fun _ _ _ inSync => fleet.toLowerStable.aside inSync rfl
    · exact fun _ _ => id

include fleet in
/-- A `page_end` that is answered with success has delivered the page in progress. -/
theorem ensures_pageEnd_delivers (inSync : InSync w past) :
    Ensures Orderly (Session.runCommand env .pageEnd)
      ⟨fun reply after past => ∀ result, reply = .ok result →
          result = [("impressions", .int 1)] ∧
          ∃ page p, w.Printable page p ∧ page.DeliveredTo env (w.printers p).profile p after past,
        fun _ _ _ => False, OnTrack⟩ w past := by
  have accepted : InSync (w.accept .pageEnd) (past ++ [commandStart w .pageEnd]) :=
    fleet.silent _ past _ trivial (fleet.toLowerStable.aside inSync rfl)
  apply ensures_runCommand
  intro _
  apply (ensures_cmdPageEnd_delivers fleet accepted).mono
  · rintro result w' past
      ⟨counted, page, p, printable, image, bitmap, prepared, packed, delivered⟩
    have stable := DeliveredPage.stable p bitmap image.height
    apply (stable.idle.ensures_answer (stable.silent _ _ _ trivial delivered)).mono
    · rintro _ _ past ⟨rfl, w, delivered, rfl⟩ _ same
      obtain rfl := Reply.ok.inj same
      exact ⟨counted, page, p,
        ⟨printable.inProgress, printable.complete, printable.held, printable.linked⟩, image, bitmap,
        prepared, packed, stable.aside delivered rfl⟩
    · exact fun _ _ _ => id
    · exact fun _ _ delivered => delivered.waits
  · intro error w past inSync
    apply (fleet.idle.ensures_answer (fleet.silent _ _ _ trivial inSync)).mono
    · rintro _ _ _ ⟨rfl, -⟩ _ same
      cases same
    · exact fun _ _ _ => id
    · exact fun _ _ => InSync.waits
  · exact fun _ _ => id

end Attempts

/-! ## Runs -/

theorem inSync_runs {env : Env} (fleet : FleetStable env Orderly InSync Dialed) :
    RunStable env Orderly InSync (fun _ => InSync) InSync OnTrack :=
  fleet.runs (fun _ _ => InSync.waits) fun _ _ inSync =>
    (ensures_cmdPageEnd_delivers fleet inSync).mono
      (fun _ _ _ ⟨_, _, _, _, _, _, _, _, delivered⟩ => delivered.toInSync)
      (fun _ _ _ => id) fun _ _ => id

/-- In a run whose pages are all called for on the bridge's printer, in its head's width, a printer
whose link is up has read a conversation since it was dialed, or is in the middle of the page called
last; once no command is under way it has read whole commands only. -/
theorem lines_in_sync (env : Env) (usable : env.Usable) (w : World)
    (fresh : ∀ p, (w.printers p).Usable) (moves : List Session.Move) (script : List Tick)
    (orderly : ∀ event ∈ (Session.runMoves env moves w script).trace, Orderly event)
    (p : PrinterId)
    (connected :
      (Session.runMoves env moves w script).ending.state.isConnected p = true) :
    ((lineTo p (Session.runMoves env moves w script).trace).Whole ∨
      (lineTo p (Session.runMoves env moves w script).trace).OnPage) ∧
    ((Session.runMoves env moves w script).hasReturned = true →
      ∃ inputs,
        PrinterInput.parse (lineTo p (Session.runMoves env moves w script).trace).bytes =
          some inputs ∧
        Conversation (lineTo p (Session.runMoves env moves w script).trace).calls inputs) := by
  have runs := inSync_runs (inSync_fleet usable)
  have start : InSync w [] := ⟨fresh, fun _ _ => PrinterLine.whole_nil⟩
  refine ⟨runs.always moves start orderly p connected, fun returned => ?_⟩
  exact ((runs.returned moves start orderly returned).whole p connected).parse

/-- A session opens the bridge and sends a page of one row. -/
def sentPage : List Session.Move :=
  let began : PageBuffer :=
    { stripPage with rows := 0, data := [], rows_le := Nat.zero_le 1, data_length := rfl }
  [.begins, .command (.open none none), .command (.pageBegin (.ok began)),
    .command (.lines (.ok 1) [0xff])]

/-- The answers to that. -/
def sendingAnswers : List Tick :=
  let silence : Tick := {}
  scanned :: List.replicate 6 silence

/-- The answers to `page_end`: the motor stops, and the sheet is gone. -/
def printingAnswers : List Tick :=
  let silence : Tick := {}
  [silence, silence, silence, { incidents := [motorStops] }, silence, { incidents := [lidClosed] },
    silence, { incidents := [sheetAbsent] }, silence, silence, silence, silence]

/-- The page is sent and printed. -/
def openedToPrint : Run PyExc World Tick TraceEvent Unit :=
  Session.runMoves stripEnv (sentPage ++ [.command .pageEnd]) freshWorld
    (sendingAnswers ++ printingAnswers)

theorem stripEnv_usable : stripEnv.Usable := by
  intro profile member
  obtain rfl := List.mem_singleton.mp member
  exact strip_usable

theorem freshWorld_usable (p : PrinterId) : (freshWorld.printers p).Usable :=
  Printer.usable_new strip_usable none

theorem fortyRows_pos : 0 < 40 :=
  Nat.succ_pos 39

/-- A page of forty rows follows it. -/
def sentTwoPages : List Session.Move :=
  let began : PageBuffer :=
    { stripPage with
      lengthRows := 40, rows := 0, data := [], lengthRows_pos := fortyRows_pos
      rows_le := Nat.zero_le 40, data_length := rfl }
  sentPage ++ [.command .pageEnd, .command (.pageBegin (.ok began)),
    .command (.lines (.ok 40) (List.replicate 40 0xff)), .command .pageEnd]

/-- The second page is cancelled while its first chunk of twenty bytes is written. -/
def stoppingAnswers : List Tick :=
  let silence : Tick := {}
  [scanned, silence, { mtu := some 23 }] ++ List.replicate 4 silence ++ printingAnswers ++
    List.replicate 4 silence ++ { incidents := [.abort] } :: List.replicate 9 silence

/-- One page is printed, and one is stopped. -/
def printedAndStopped : Run PyExc World Tick TraceEvent Unit :=
  Session.runMoves stripEnv sentTwoPages freshWorld stoppingAnswers

/-- The band that had been begun when the page was stopped is completed with thirty white rows. -/
theorem lines_in_sync_strip :
    ∃ inputs,
      .command (.raster 0 1 40 (List.replicate 10 0xff ++ List.replicate 30 0)) ∈ inputs ∧
        PrinterInput.parse (lineTo 0 printedAndStopped.trace).bytes = some inputs ∧
        Conversation (lineTo 0 printedAndStopped.trace).calls inputs := by
  have orderly : ∀ event ∈ printedAndStopped.trace, Orderly event := by decide +kernel
  have stopped : ∀ inputs ∈ PrinterInput.parse (lineTo 0 printedAndStopped.trace).bytes,
      .command (.raster 0 1 40 (List.replicate 10 0xff ++ List.replicate 30 0)) ∈ inputs := by
    decide +kernel
  have connected : printedAndStopped.ending.state.isConnected 0 = true := by decide +kernel
  have returned : printedAndStopped.hasReturned = true := by decide +kernel
  unfold printedAndStopped at orderly connected returned stopped ⊢
  obtain ⟨inputs, parsed, conversed⟩ := (lines_in_sync stripEnv stripEnv_usable freshWorld
    freshWorld_usable sentTwoPages stoppingAnswers orderly 0 connected).2 returned
  exact ⟨inputs, stopped inputs parsed, parsed, conversed⟩

end Phomemo
