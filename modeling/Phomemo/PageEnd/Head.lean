import Phomemo.PageEnd.Sheet

/-!
# The head a page is printed with

A page is prepared once, for the printer and profile the command started on.  The attempts keep
to both as long as no reconnect puts another printer object in place or changes the head width.
-/

namespace Phomemo

open Async Coroutine

/-- The call is made on the bridge's printer with a bitmap of its head's width. -/
def PrintCall.OnHeldHead (call : PrintCall) : Prop :=
  call.held = some call.printer ∧ call.bitmap.length = call.widthBytes.toNat * call.height

/-- Every print call so far was made on the bridge's printer with a bitmap of its width. -/
abbrev HeadCalls : List TraceEvent → Prop :=
  Throughout fun _ event => ∀ call, event = .printCalled call → call.OnHeldHead

/-- No reconnect replaces the printer object or changes the head width. -/
def KeepsHead : TraceEvent → Prop
  | .replacedPrinter _ _ => False
  | .usedProfile _ old new => new.widthBytes = old.widthBytes
  | _ => True

instance : DecidablePred KeepsHead := fun event => by
  unfold KeepsHead
  split <;> infer_instance

/-- The bridge holds this printer, whose head has this width. -/
structure Heads (p : PrinterId) (width : Int) (w : World) (past : List TraceEvent) : Prop where
  held : w.bridge.printer = some p
  width_eq : (w.printers p).profile.widthBytes = width
  calls : HeadCalls past

namespace Heads

variable {p : PrinterId} {width : Int} {w : World} {past : List TraceEvent}

/-- The same printer and profile, and one more event. -/
theorem next {after : World} {event : TraceEvent} (heads : Heads p width w past)
    (printer : after.bridge.printer = w.bridge.printer)
    (profile : (after.printers p).profile = (w.printers p).profile)
    (call : ∀ call, event = .printCalled call → call.OnHeldHead) :
    Heads p width after (past ++ [event]) where
  held := printer.trans heads.held
  width_eq := (congrArg PrinterProfile.widthBytes profile).trans heads.width_eq
  calls := heads.calls.concat call

theorem move {after : World} (heads : Heads p width w past)
    (printer : after.bridge.printer = w.bridge.printer)
    (profile : (after.printers p).profile = (w.printers p).profile) :
    Heads p width after past where
  held := printer.trans heads.held
  width_eq := (congrArg PrinterProfile.widthBytes profile).trans heads.width_eq
  calls := heads.calls

theorem append {later : List TraceEvent} (heads : Heads p width w past)
    (ordinary : ∀ event ∈ later, event.Ordinary) : Heads p width w (past ++ later) := by
  induction later generalizing past with
  | nil => simpa using heads
  | cons event later ih =>
      have here : Heads p width w (past ++ [event]) := heads.next rfl rfl fun call same =>
        absurd same ((ordinary event List.mem_cons_self).ne_printCalled.2 call)
      have rest := ih here fun other member => ordinary other (List.mem_cons_of_mem _ member)
      simpa using rest

theorem idle : IdleStable KeepsHead (Heads p width) where
  awaken := fun w _ answer heads _ =>
    have awaited := World.awaited_awaken (w := w) answer
    (heads.append fun event member => .await (World.awakening_events answer event member)).move
      awaited.printer (awaited.profile p)
  quiet := fun _ _ _ quiet heads =>
    heads.move quiet.printer (quiet.profile p)
  event := fun _ _ _ wire heads _ => heads.next rfl rfl fun call same =>
    absurd same ((TraceEvent.Ordinary.wire wire).ne_printCalled.2 call)

/-- Ordinary events say nothing of print calls. -/
theorem ordinary {after : World} {event : TraceEvent} (heads : Heads p width w past)
    (ordinary : event.Ordinary) (printer : after.bridge.printer = w.bridge.printer)
    (profile : (after.printers p).profile = (w.printers p).profile) :
    Heads p width after (past ++ [event]) :=
  heads.next printer profile fun call same => absurd same (ordinary.ne_printCalled.2 call)

theorem link (q : PrinterId) : LinkStable KeepsHead (Heads p width) q fun _ _ => True where
  toIdleStable := idle
  wrote := fun _ _ _ _ heads _ _ _ => heads.ordinary (.wrote _ _ _) rfl rfl
  lost := fun _ _ heads _ =>
    heads.ordinary (.writeFailed _) rfl (by unfold World.setConnected; simp)
  downed := fun _ _ heads => heads.move rfl (by unfold World.setConnected; simp)
  hungUp := fun _ _ heads => heads.move rfl (by unfold World.hangUp; simp)
  unset := fun _ _ heads => heads.move rfl (by unfold World.setClient; simp)
  dialed := fun _ _ _ heads _ _ =>
    heads.ordinary (.dialed _ _ _) rfl (by unfold World.setClient; simp)
  up := fun _ _ heads => heads.move rfl (by unfold World.setConnected; simp)
  negotiated := fun _ _ _ _ heads => heads.move rfl (by unfold World.setChunkBytes; simp)
  named := fun w _ device heads _ => heads.move rfl (w.learn_profile q p device)
  learned := fun _ => trivial
  sought := fun _ _ _ => trivial
  handed := fun _ => trivial
  resolved := fun _ _ _ _ heads _ => heads.ordinary (.resolved _ _) rfl rfl

theorem stream (q : PrinterId) : StreamStable KeepsHead (Heads p width) q where
  toWireStable := (link q).toWireStable
  streamed := fun _ _ _ _ heads _ _ => heads.ordinary (.wrote _ _ _) rfl rfl

theorem bridge (env : Env) :
    BridgeStable env KeepsHead (fun _ => Heads p width) fun _ _ => True where
  idle := fun _ => idle
  link := fun _ q _ => link q
  hold := fun _ _ _ _ heads _ => heads
  letGo := fun _ _ _ _ => id
  marked := fun _ _ _ heads => heads.move rfl rfl
  event := fun _ _ _ _ waits heads _ => heads.ordinary (.waits waits) rfl rfl
  connecting := fun _ _ _ _ connect heads _ => heads.ordinary (.connect connect) rfl rfl
  cancelHold := fun _ _ _ heads => heads.move rfl rfl
  adopted := fun _ _ _ _ _ heads absent _ _ => absurd (heads.held.symm.trans absent) nofun
  usedProfile := by
    intro _ w past q profile heads held _ _ sameWidth
    obtain rfl : q = p := Option.some.inj (held.symm.trans heads.held)
    refine ⟨heads.held, ?_, heads.calls.concat nofun⟩
    unfold World.useProfile
    rw [World.setPrinter_printers, if_pos rfl]
    exact sameWidth.trans heads.width_eq
  replaced := fun _ _ _ _ _ _ _ _ _ replaced => replaced.elim

theorem printPage (bitmap : Bytes) (height : Nat) (density : Density)
    (size : bitmap.length = width.toNat * height) :
    Keeps KeepsHead (Heads p width) (Session.printPage p bitmap height density) := by
  have streams : StreamStable KeepsHead (Heads p width) p := stream p
  intro w past heads
  apply Ensures.modify_bind
  apply Ensures.bind
  apply streams.ensures_printBitmap WireStable.transferFails_any
    (fun _ _ => idle.onProgress p height)
  · intro call printer_eq bitmap_eq height_eq held widthBytes _ _
    refine heads.next rfl rfl ?_
    rintro _ same
    obtain rfl := TraceEvent.printCalled.inj same
    constructor
    · rw [held, printer_eq]
      exact heads.held
    · rw [bitmap_eq, height_eq, widthBytes, size, ← heads.width_eq]
      rfl
  · exact fun _ _ _ _ heads => ⟨heads, trivial⟩
  · exact fun _ _ _ heads => ⟨heads, trivial⟩
  · intro w past heads _
    have printed : Heads p width w (past ++ [.printReturned]) := heads.next rfl rfl nofun
    apply Ensures.read_bind
    apply Ensures.ite
    · exact fun _ => idle.sendEvent (.progress 100) _ _ printed
    · exact fun _ => Ensures.pure printed
  · exact fun _ _ _ heads _ => ⟨heads, trivial⟩
  · exact fun _ _ => id

theorem printAttempts (env : Env) (bitmap : Bytes) (height : Nat) (density : Density)
    (size : bitmap.length = width.toNat * height) :
    Keeps KeepsHead (Heads p width) (Session.printAttempts env p bitmap height density) := by
  have recovers : ∀ exc, Keeps KeepsHead (Heads p width) (Session.recover env p exc) :=
    fun exc => (bridge env).waits.recover (List.mem_cons_self (l := []))
      (fun _ _ heads _ => heads.next rfl rfl nofun) exc
  apply Upholds.forever
  apply Upholds.handle
  · exact Upholds.bind (printPage bitmap height density size) fun _ => Upholds.pure _
  · exact fun exc _ => Upholds.bind (recovers exc) fun _ => Upholds.pure _

end Heads

/-- The bitmap of a prepared page has the size its profile's head and the page's height give. -/
theorem prepared_size {diffuse : Image → Nat → Nat → UInt8} {img image : Image}
    {profile : PrinterProfile} {lengthMm : Option ℚ} {tone : ToneMode} {rotate : Bool}
    {bitmap : Bytes}
    (prepared : preparePage diffuse img profile lengthMm tone rotate = .ok image)
    (packed : imageToBitmap image = .ok bitmap) :
    bitmap.length = profile.widthBytes.toNat * image.height := by
  rw [imageToBitmap_length packed, (preparePage_shape prepared).2]
  congr 1
  unfold PrinterProfile.widthBytes
  omega

namespace Heads

theorem printComplete (env : Env) (p : PrinterId) (page : PageBuffer) {w : World}
    {past : List TraceEvent} (held : w.bridge.printer = some p) (calls : HeadCalls past) :
    Ensures KeepsHead (Session.printComplete env p page)
      ⟨fun _ _ past => HeadCalls past, fun _ _ past => HeadCalls past, fun _ past => HeadCalls past⟩
      w past := by
  have ejects : Keeps KeepsHead (Heads p (w.printers p).profile.widthBytes)
      (Printer.ejectPaper p) := (link p).ejectPaper .any
  have start : Heads p (w.printers p).profile.widthBytes w past := ⟨held, rfl, calls⟩
  apply Ensures.seq (idle.ensures_preparedPage env p page start)
  · rintro ⟨bitmap, height⟩ w' past ⟨heads, image, prepared, packed, rfl⟩
    have size := prepared_size prepared packed
    apply Upholds.seq (printAttempts env bitmap image.height page.density size) heads
    · intro _ w past heads
      apply Ensures.bind
      apply Ensures.handle
      apply Upholds.seq ejects heads
      · exact fun _ _ _ heads => Ensures.pure (Ensures.pure heads.calls)
      · intro error w past heads _
        apply Ensures.emit_bind
        exact fun _ => Ensures.raise (heads.calls.concat nofun)
      · exact fun _ _ heads => heads.calls
    · exact fun _ _ _ heads _ => heads.calls
    · exact fun _ _ heads => heads.calls
  · exact fun _ _ _ raised => raised.1.calls
  · exact fun _ _ heads => heads.calls

end Heads

theorem pageEnd_heads (env : Env) (w : World) :
    Ensures KeepsHead (Session.runCommand env .pageEnd)
      ⟨fun _ _ past => HeadCalls past, fun _ _ past => HeadCalls past, fun _ past => HeadCalls past⟩
      w [] := by
  have kept : KeptByOrdinary KeepsHead HeadCalls := fun _ _ ordinary calls _ =>
    calls.concat fun call same => absurd same (ordinary.ne_printCalled.2 call)
  have began : HeadCalls ([] ++ [commandStart w .pageEnd]) := throughout_nil.concat nofun
  have finishes : ∀ reply w past, HeadCalls past →
      Ensures KeepsHead (answer .pageEnd reply)
        ⟨fun _ _ past => HeadCalls past, fun _ _ past => HeadCalls past,
          fun _ past => HeadCalls past⟩ w past := by
    intro reply w past calls
    apply (kept.idle.ensures_answer (calls.concat nofun)).mono
    · rintro _ _ past ⟨-, _, calls, -⟩
      exact calls
    · exact fun _ _ _ => False.elim
    · exact fun _ _ => id
  apply ensures_runCommand
  intro _
  apply ensures_cmdPageEnd
  · exact fun _ text => finishes _ _ _ began
  · intro page p printable
    apply (@Heads.printComplete env p page ((w.accept .pageEnd).setSession _) _ printable.held
      began).mono
    · exact fun result w past calls => finishes _ _ past calls
    · exact fun error w past calls => finishes _ _ past calls
    · exact fun _ _ => id

/-- In a run where no reconnect replaces the printer object or changes the head width, every
print call is made on the bridge's printer with a bitmap of its head's width. -/
theorem pageEnd_on_held_head (env : Env) (w : World) (script : List Tick)
    (replaced : ∀ old new,
      .replacedPrinter old new ∉ (Session.runCommand env .pageEnd w script).trace)
    (switched : ∀ p old new,
      .usedProfile p old new ∈ (Session.runCommand env .pageEnd w script).trace →
      new.widthBytes = old.widthBytes) (call : PrintCall)
    (called : .printCalled call ∈ (Session.runCommand env .pageEnd w script).trace) :
    call.held = some call.printer ∧
      call.bitmap.length = call.widthBytes.toNat * call.height := by
  have relied : ∀ event ∈ (Session.runCommand env .pageEnd w script).trace,
      KeepsHead event := by
    intro event member
    cases event <;>
      first | exact trivial | exact replaced _ _ member | exact switched _ _ _ member
  obtain ⟨before, after, split⟩ := List.append_of_mem called
  exact (pageEnd_heads env w).always relied before _ after split call rfl

theorem oneByte_aligned : (8 : Int) % 8 = 0 :=
  rfl

/-- A model that shares the strip printer's name, link and width. -/
def twinStrip : PrinterProfile where
  name := "twin"
  bleNamePattern := "^S"
  printWidthPx := 8
  serialCodes := ["W"]
  width_aligned := oneByte_aligned
  sheet_printable := PrinterProfile.sheetless_printable

/-- The surroundings with both models. -/
def twinsEnv : Env :=
  { stripEnv with
    registry :=
      { profiles := [strip, twinStrip]
        compile := anyName
        names_nodup := by decide
        compiles := anyName_compiles [strip, twinStrip] } }

/-- Whether an event is the switch of a profile. -/
def TraceEvent.isUsedProfile : TraceEvent → Bool
  | .usedProfile _ _ _ => true
  | _ => false

/-- The page is printed, its sheet gone after it. -/
def reprintingAnswers : List Tick :=
  [{}, { incidents := [motorStops] }, {}, { incidents := [lidClosed] }, {},
    { incidents := [sheetAbsent] }, {}, {}, {}, {}]

/-- The first write of the page fails, and the reconnect reads the serial of the other model; then
the page is printed again, from the bitmap made for the first. -/
def reprintedOnTwin : Run PyExc World Tick TraceEvent Reply :=
  Session.runCommand twinsEnv .pageEnd stripWorld
    ({} :: {} :: { bleakError := some "lost" } :: {} :: { found := some ⟨"S", some "S"⟩ } ::
      {} :: {} :: {} :: {} :: { incidents := [.notified 0 [⟨0, [], .serial "W1"⟩] ] } ::
      {} :: { incidents := [lidClosed] } :: {} :: { incidents := [sheetAbsent] } ::
      (readyAnswers ++ reprintingAnswers))

/-- The second call is made on the printer that was switched to the other model meanwhile, and fits
its head. -/
theorem pageEnd_on_held_head_strip :
    isAnswered reprintedOnTwin = true ∧
      (reprintedOnTwin.trace.take 37).any TraceEvent.isPrintCalled = true ∧
      (reprintedOnTwin.trace.take 37).any TraceEvent.isUsedProfile = true ∧
      ∃ call, reprintedOnTwin.trace[37]? = some (.printCalled call) ∧
        call.held = some call.printer ∧
        call.bitmap.length = call.widthBytes.toNat * call.height := by
  have keeps : ∀ event ∈ reprintedOnTwin.trace, KeepsHead event := by
    decide +kernel
  have called : (reprintedOnTwin.trace[37]?.any TraceEvent.isPrintCalled) = true := by
    decide +kernel
  refine ⟨by decide +kernel, by decide +kernel, by decide +kernel, ?_⟩
  obtain ⟨event, second, is⟩ := (Option.any_eq_true _ _).mp called
  obtain ⟨call, rfl⟩ := TraceEvent.eq_of_isPrintCalled is
  have member := List.mem_of_getElem? second
  exact ⟨call, second, pageEnd_on_held_head twinsEnv stripWorld _
    (fun old new present => keeps _ present) (fun p old new present => keeps _ present) call
    member⟩

/-- A model that shares the strip printer's name and link, with a head of two bytes. -/
def wideStrip : PrinterProfile where
  name := "wide"
  bleNamePattern := "^S"
  printWidthPx := 16
  serialCodes := ["W"]
  width_aligned := by decide
  sheet_printable := PrinterProfile.sheetless_printable

/-- The surroundings with both models. -/
def twoStripsEnv : Env :=
  { stripEnv with
    registry :=
      { profiles := [strip, wideStrip]
        compile := anyName
        names_nodup := by decide
        compiles := anyName_compiles [strip, wideStrip] } }

/-- Whether a print call's bitmap does not have the size of its head. -/
def TraceEvent.isMisfit : TraceEvent → Bool
  | .printCalled call => call.bitmap.length ≠ call.widthBytes.toNat * call.height
  | _ => false

/-- The first write fails, and the reconnect reads the serial of the wider model: the page is
printed again from the bitmap of the narrower head. -/
theorem reprint_with_old_bitmap :
    ∃ call, .printCalled call ∈ (Session.runCommand twoStripsEnv .pageEnd stripWorld
        ({} :: {} :: { bleakError := some "lost" } :: {} :: { found := some ⟨"S", some "S"⟩ } ::
          {} :: {} :: {} :: {} :: { incidents := [.notified 0 [⟨0, [], .serial "W1"⟩] ] } ::
          {} :: { incidents := [lidClosed] } :: {} :: { incidents := [sheetAbsent] } ::
          readyAnswers)).trace ∧
      call.bitmap.length ≠ call.widthBytes.toNat * call.height := by
  have misfits : (Session.runCommand twoStripsEnv .pageEnd stripWorld
        ({} :: {} :: { bleakError := some "lost" } :: {} :: { found := some ⟨"S", some "S"⟩ } ::
          {} :: {} :: {} :: {} :: { incidents := [.notified 0 [⟨0, [], .serial "W1"⟩] ] } ::
          {} :: { incidents := [lidClosed] } :: {} :: { incidents := [sheetAbsent] } ::
          readyAnswers)).trace.any TraceEvent.isMisfit = true := by
    decide +kernel
  obtain ⟨event, member, is⟩ := List.any_eq_true.mp misfits
  cases event with
  | printCalled call => exact ⟨call, member, of_decide_eq_true is⟩
  | _ => cases is

end Phomemo
