import Phomemo.Async.Loop
import Phomemo.Bridge.Client
import Phomemo.Bridge.PageState
import Phomemo.Wire.Paper

/-!
# Printing an image from the client

`print_image` opens the bridge, waits for a sheet, begins a page of the size of its image, sends the
rows in messages of sixty-four and ends the page.  The session takes every row message, so the page
in progress is the image when `page_end` is sent, and its reply means that the image is on paper.
-/

namespace Phomemo

open Async Coroutine

namespace BridgeClient

/-! ## The method -/

/-- A grayscale image with its pixels row by row. -/
structure GrayImage where
  width : Nat
  height : Nat
  raw : Bytes
  width_pos : 0 < width
  height_pos : 0 < height
  raw_length : raw.length = height * width

/-- The image, as the page pipeline sees it. -/
def GrayImage.image (img : GrayImage) : Image where
  mode := .gray
  width := img.width
  height := img.height
  pixel := fun x y => img.raw.getD (y * img.width + x) 0

/-- `MEDIA`: the length of a sheet and whether its pages are turned. -/
def media : List (String × Option ℚ × Bool) :=
  [("a4", some 297, false), ("a5", some 148, true), ("roll", none, false)]

/-- `QUALITY`: the names of the densities. -/
def quality : List (String × String) :=
  [("draft", "low"), ("normal", "medium"), ("high", "high")]

def rowsPerMessage : Nat := 64

/-- The value of a key. -/
def lookup {α : Type} (key : String) (entries : List (String × α)) : Except PyExc α :=
  match assocGet key entries with
  | some value => .ok value
  | none => .error (.keyError s!"'{key}'")

/-- Send a command to the session and return its reply; an error reply is raised. -/
def call (env : Env) (command : Command) : Py Result := do
  match ← Session.runCommand env command with
  | .ok result => return result
  | .error text => raise (.runtimeError text)

/-- The rows of one message. -/
def sendRows (env : Env) (img : GrayImage) (start : Nat) : Py Unit := do
  let count := min rowsPerMessage (img.height - start)
  let _ ← call env (.lines (.ok count)
    (slice img.raw (start * img.width) ((start + count) * img.width)))

/-- What the client asks `page_begin` for. -/
def pageRequest (img : GrayImage) (tone content density : String) (lengthMm : Option ℚ)
    (rotate : Bool) : PageRequest where
  width := img.width
  lengthRows := img.height
  bits := 8
  tone := tone
  content := content
  density := density
  mediaLengthMm := lengthMm
  rotate := rotate

/-- `range(0, img.height, _ROWS_PER_MESSAGE)`. -/
def starts (height : Nat) : List Nat :=
  List.range' 0 ((height + rowsPerMessage - 1) / rowsPerMessage) rowsPerMessage

/-- `page_begin` and the rows. -/
def sendPage (env : Env) (img : GrayImage) (request : PageRequest) : Py Unit := do
  let _ ← call env (.pageBegin (request.begin env))
  forEach (starts img.height) (sendRows env img)

/-- `print_image` up to its `page_end`. -/
def sendImage (env : Env) (img : GrayImage) (medium tone grade content : String) : Py Unit := do
  let (lengthMm, rotate) ← ofExcept (lookup medium media)
  let density ← ofExcept (lookup grade quality)
  let _ ← call env (.open none none)
  let _ ← call env (.waitReady none)
  sendPage env img (pageRequest img tone content density lengthMm rotate)

/-- What an abort sent behind `page_end` comes to that has not come during its awaits: it is read
before `close`, the next message. -/
def lateAbort (abortAfter : Option ℚ) : Py Unit :=
  if abortAfter.isSome then
    modify fun w => w.setSession fun session => { session with abort := true }
  else
    Coroutine.pure ()

/-- The end of `print_image`.  With `abort_after` an abort is sent behind `page_end`. -/
def endPage (env : Env) (python : PythonText) (abortAfter : Option ℚ) : Py Int := do
  let reply ← call env .pageEnd
  lateAbort abortAfter
  let _ ← call env .close
  ofExcept (fieldOf reply "impressions" >>= python.int)

/-- `print_image`. -/
def printImage (env : Env) (python : PythonText) (img : GrayImage)
    (medium tone grade content : String) (abortAfter : Option ℚ) : Py Int := do
  sendImage env img medium tone grade content
  endPage env python abortAfter

/-! ## The rows -/

/-- The page in progress is the begun page with the first rows of the image. -/
structure Filled (img : GrayImage) (begun : PageBuffer) (rows : Nat) (page : PageBuffer) :
    Prop where
  width : page.width = img.width
  lengthRows : page.lengthRows = img.height
  bits : page.bits = .eight
  tone : page.tone = begun.tone
  mediaLengthMm : page.mediaLengthMm = begun.mediaLengthMm
  rotate : page.rotate = begun.rotate
  rows_eq : page.rows = rows
  data : page.data = img.raw.take (rows * img.width)

theorem Filled.rowBytes {img : GrayImage} {begun page : PageBuffer} {rows : Nat}
    (filled : Filled img begun rows page) : page.rowBytes = img.width := by
  rw [PageBuffer.rowBytes, filled.bits, filled.width]
  exact Nat.mul_div_cancel _ (by decide)

/-- A page that is filled is the image. -/
theorem Filled.image {img : GrayImage} {begun page : PageBuffer}
    (filled : Filled img begun img.height page) : page.image = img.image := by
  have rowBytes := filled.rowBytes
  have data : page.data = img.raw := by
    rw [filled.data, ← img.raw_length, List.take_length]
  unfold PageBuffer.image GrayImage.image
  rw [filled.bits, filled.width, filled.rows_eq, rowBytes, data]

/-- The next rows fit, and fill the page further. -/
theorem Filled.takes {img : GrayImage} {begun page : PageBuffer} {start count : Nat}
    (filled : Filled img begun start page) (some_rows : 0 < count)
    (fits : start + count ≤ img.height) :
    ∃ next, Session.takeLines (some page) (.ok count)
        (slice img.raw (start * img.width) ((start + count) * img.width)) = .ok next ∧
      Filled img begun (start + count) next := by
  have stop : start * img.width ≤ (start + count) * img.width :=
    Nat.mul_le_mul_right _ (Nat.le_add_right _ _)
  have sized : (slice img.raw (start * img.width) ((start + count) * img.width)).length =
      count * page.rowBytes := by
    have inside : (start + count) * img.width ≤ img.raw.length := by
      rw [img.raw_length]
      exact Nat.mul_le_mul_right _ fits
    rw [filled.rowBytes, slice, List.length_take, List.length_drop]
    rw [Nat.add_mul] at inside ⊢
    omega
  have below : page.rows + count ≤ page.lengthRows := by
    rw [filled.rows_eq, filled.lengthRows]
    exact fits
  refine ⟨page.addLines count _ sized below, ?_, ?_⟩
  · simp [Session.takeLines, some_rows, sized, below]
  · refine ⟨filled.width, filled.lengthRows, filled.bits, filled.tone, filled.mediaLengthMm,
      filled.rotate, congrArg (· + count) filled.rows_eq, ?_⟩
    change page.data ++ _ = _
    rw [filled.data, take_append_slice, Nat.max_eq_right stop]

/-! ## Calls -/

section Calls

variable {env : Env} {w : World} {past : List TraceEvent}

/-- A call of a command whose handler sets the page in one step. -/
theorem ensures_call_page {rely : TraceEvent → Prop} {command : Command} {result : Result}
    {page : PageBuffer}
    (handled : ∀ script, Session.handler env command (w.accept command) script =
      ⟨[], .returned result
        ((w.accept command).setSession fun session => { session with page := some page })
        script⟩) :
    Ensures rely (call env command)
      ⟨fun _ after _ => after.session.page = some page, fun _ _ _ => False, fun _ _ => True⟩
      w past := by
  have answers : ∀ w past, w.session.page = some page →
      Ensures rely (answer command (.ok result))
        ⟨fun reply after _ => reply = .ok result ∧ after.session.page = some page,
          fun _ _ _ => False, fun _ _ => True⟩ w past := by
    intro w past held
    apply Ensures.emit_bind
    intro _
    apply Ensures.bind
    apply ensures_tick_bind trivial
    intro answer _
    apply Ensures.pure
    apply Ensures.modify_bind
    exact Ensures.pure ⟨rfl, (World.awaited_awaken answer).page.trans held⟩
  have ran : Ensures rely (Session.runCommand env command)
      ⟨fun reply after _ => reply = .ok result ∧ after.session.page = some page,
        fun _ _ _ => False, fun _ _ => True⟩ w past := by
    apply ensures_runCommand
    intro _ script relied
    rw [handled script]
    exact answers _ _ rfl
  apply Ensures.seq ran
  · rintro _ w past ⟨rfl, held⟩
    exact Ensures.pure held
  · exact fun _ _ _ => id
  · exact fun _ _ => id

/-- A `close` writes nothing. -/
theorem ensures_close {p : PrinterId} {bitmap : Bytes} {height : Nat}
    (delivered : DeliveredPage p bitmap height w past) :
    Ensures Orderly (Session.runCommand env .close)
      ⟨fun _ => DeliveredPage p bitmap height, fun _ _ _ => False, OnTrack⟩ w past := by
  have stable := DeliveredPage.stable p bitmap height
  have timer : KeptByTimer (DeliveredPage p bitmap height) :=
    fun _ _ _ holds => stable.aside holds rfl
  have closes : Keeps Orderly (DeliveredPage p bitmap height) (Session.cmdClose env) :=
    timer.cmdClose env fun w past holds _ => stable.silent w past _ trivial holds
  have replies : ∀ reply w past, DeliveredPage p bitmap height w past →
      Ensures Orderly (answer .close reply)
        ⟨fun _ => DeliveredPage p bitmap height, fun _ _ _ => False, OnTrack⟩ w past := by
    intro reply w past delivered
    apply (stable.idle.ensures_answer (stable.silent _ _ _ trivial delivered)).mono
    · rintro _ _ past ⟨-, w, delivered, rfl⟩
      exact stable.aside delivered rfl
    · exact fun _ _ _ => id
    · exact fun _ _ delivered => delivered.waits
  have accepted : DeliveredPage p bitmap height (w.accept .close)
      (past ++ [commandStart w .close]) :=
    stable.silent _ past _ trivial (stable.aside delivered rfl)
  apply ensures_runCommand
  intro _
  apply closes.ensures accepted
  · exact fun _ _ _ delivered => replies _ _ _ delivered
  · exact fun _ _ _ delivered _ => replies _ _ _ delivered
  · exact fun _ _ delivered => delivered.waits

/-- An abort that comes late finds the page on the line. -/
theorem ensures_lateAbort {p : PrinterId} {bitmap : Bytes} {height : Nat}
    {abortAfter : Option ℚ} (delivered : DeliveredPage p bitmap height w past) :
    Ensures Orderly (lateAbort abortAfter)
      ⟨fun _ => DeliveredPage p bitmap height, fun _ _ _ => False, OnTrack⟩ w past := by
  unfold lateAbort
  split
  · exact Ensures.modify ((DeliveredPage.stable p bitmap height).aside delivered rfl)
  · exact Ensures.pure delivered

variable (fleet : FleetStable env Orderly InSync Dialed)

include fleet in
/-- Every call keeps the lines whole. -/
theorem ensures_call (inSync : InSync w past) (command : Command) :
    Ensures Orderly (call env command) ⟨fun _ => InSync, fun _ => InSync, OnTrack⟩ w past := by
  apply Ensures.seq ((inSync_runs fleet).runCommand command inSync)
  · intro reply w past inSync
    cases reply with
    | ok result => exact Ensures.pure inSync
    | error text => exact Ensures.raise inSync
  · exact fun _ _ _ => False.elim
  · exact fun _ _ => id

/-- What a row message that fits does. -/
theorem cmdLines_taken {page next : PageBuffer} {count : Except PyExc Int} {payload : Bytes}
    (held : w.session.page = some page)
    (taken : Session.takeLines (some page) count payload = .ok next) (script : List Tick) :
    Session.cmdLines count payload w script = ⟨[], .returned [("rows", .int next.rows)]
      (w.setSession fun session => { session with page := some next }) script⟩ := by
  rw [Session.cmdLines_eq, held, taken]

include fleet in
/-- The rows of a message are never refused. -/
theorem Filled.ensures_sendRows {img : GrayImage} {begun page : PageBuffer} {start : Nat}
    (filled : Filled img begun start page) (more : start < img.height)
    (held : w.session.page = some page) (inSync : InSync w past) :
    Ensures Orderly (sendRows env img start)
      ⟨fun _ w past => InSync w past ∧ ∃ page, w.session.page = some page ∧
          Filled img begun (min (start + rowsPerMessage) img.height) page,
        fun _ _ _ => False, OnTrack⟩ w past := by
  set count := min rowsPerMessage (img.height - start) with count_eq
  have some_rows : 0 < count := by
    rw [count_eq, rowsPerMessage]
    omega
  obtain ⟨next, taken, filled⟩ := filled.takes some_rows (by omega)
  have reached : start + count = min (start + rowsPerMessage) img.height := by omega
  have called := (ensures_call fleet inSync (.lines (.ok count)
    (slice img.raw (start * img.width) ((start + count) * img.width)))).and
      (@ensures_call_page env w past Orderly _ [("rows", .int next.rows)] next
        (cmdLines_taken held taken))
  apply Ensures.seq called
  · rintro _ w past ⟨inSync, held⟩
    exact Ensures.pure ⟨inSync, next, held, reached ▸ filled⟩
  · exact fun _ _ _ failed => failed.2
  · exact fun _ _ => And.left

include fleet in
theorem Filled.ensures_rows {img : GrayImage} {begun : PageBuffer} {count start : Nat}
    (enough : img.height ≤ start + rowsPerMessage * count)
    (needed : 0 < count → start + rowsPerMessage * (count - 1) < img.height)
    (inSync : InSync w past) {page : PageBuffer} (held : w.session.page = some page)
    (filled : Filled img begun (min start img.height) page) :
    Ensures Orderly (forEach (List.range' start count rowsPerMessage) (sendRows env img))
      ⟨fun _ w past => InSync w past ∧ ∃ page, w.session.page = some page ∧
          Filled img begun img.height page,
        fun _ _ _ => False, OnTrack⟩ w past := by
  induction count generalizing start w past page with
  | zero =>
      rw [Nat.min_eq_right (by omega)] at filled
      exact Ensures.pure ⟨inSync, page, held, filled⟩
  | succ count ih =>
      have more := needed count.succ_pos
      rw [Nat.add_sub_cancel] at more
      rw [Nat.min_eq_left (by omega)] at filled
      apply Ensures.seq (filled.ensures_sendRows fleet (by omega) held inSync)
      · rintro _ w past ⟨inSync, page, held, filled⟩
        apply ih _ _ inSync held filled
        · rw [Nat.mul_succ] at enough
          omega
        · intro some_left
          obtain ⟨left, rfl⟩ := Nat.exists_eq_succ_of_ne_zero some_left.ne'
          rw [Nat.mul_succ] at more
          simp only [Nat.succ_eq_add_one, Nat.add_sub_cancel]
          omega
      · exact fun _ _ _ => id
      · exact fun _ _ => id

include fleet in
/-- Once the page is begun its rows are all taken. -/
theorem ensures_sendPage {img : GrayImage} {request : PageRequest} {begun : PageBuffer}
    (accepted : request.begin env = .ok begun) (width : begun.width = img.width)
    (lengthRows : begun.lengthRows = img.height) (bits : begun.bits = .eight)
    (empty : begun.rows = 0 ∧ begun.data = []) (inSync : InSync w past) :
    Ensures Orderly (sendPage env img request)
      ⟨fun _ w past => InSync w past ∧ ∃ page, w.session.page = some page ∧
          Filled img begun img.height page,
        fun _ _ _ => False, OnTrack⟩ w past := by
  have called := (ensures_call fleet inSync (.pageBegin (request.begin env))).and
      (@ensures_call_page env w past Orderly _ [] begun fun script => by
        change Session.cmdPageBegin _ _ script = _
        rw [Session.cmdPageBegin_eq, accepted])
  have height_pos := img.height_pos
  apply Ensures.seq called
  · rintro _ w past ⟨inSync, held⟩
    apply Filled.ensures_rows fleet _ _ inSync held
    · refine ⟨width, lengthRows, bits, rfl, rfl, rfl, ?_, ?_⟩
      · rw [empty.1, Nat.zero_min]
      · rw [empty.2, Nat.zero_min, Nat.zero_mul]
        rfl
    · simp only [rowsPerMessage]
      omega
    · simp only [rowsPerMessage]
      omega
  · exact fun _ _ _ failed => failed.2
  · exact fun _ _ => And.left

theorem begin_fields {request : PageRequest} {begun : PageBuffer}
    (accepted : request.begin env = .ok begun) :
    request.toneMode env = .ok begun.tone ∧ begun.mediaLengthMm = request.mediaLengthMm ∧
      begun.rotate = request.rotate := by
  unfold PageRequest.begin at accepted
  split at accepted
  · cases accepted
  · split_ifs at accepted with aligned positive
    split at accepted
    · cases accepted
    · split at accepted
      · cases accepted
      · rename_i tone named _ _ _
        obtain rfl := Except.ok.inj accepted
        exact ⟨named, rfl, rfl⟩

/-- A command the session refuses where it stands is raised. -/
theorem ensures_call_refused {rely : TraceEvent → Prop} {command : Command} {exc : PyExc}
    (refused : ∀ script, Session.handler env command (w.accept command) script =
      ⟨[], .raised exc (w.accept command) script⟩) :
    Ensures rely (call env command)
      ⟨fun _ _ _ => False, fun _ _ _ => True, fun _ _ => True⟩ w past := by
  have answers : ∀ text w past, Ensures rely (answer command (.error text))
      ⟨fun reply _ _ => reply = .error text, fun _ _ _ => True, fun _ _ => True⟩ w past := by
    intro text w past
    apply Ensures.emit_bind
    intro _
    apply Ensures.bind
    apply ensures_tick_bind trivial
    intro answer _
    apply Ensures.pure
    apply Ensures.modify_bind
    exact Ensures.pure rfl
  have ran : Ensures rely (Session.runCommand env command)
      ⟨fun reply _ _ => reply = .error (Session.errorText exc), fun _ _ _ => True,
        fun _ _ => True⟩ w past := by
    apply ensures_runCommand
    intro _ script relied
    rw [refused script]
    exact answers _ _ _
  apply Ensures.seq ran
  · rintro _ w past rfl
    exact Ensures.raise trivial
  · exact fun _ _ _ => id
  · exact fun _ _ => id

/-- The image is the page in progress, begun as the medium, the tone and the quality say. -/
structure Sent (env : Env) (img : GrayImage) (medium tone grade content : String) (w : World)
    (past : List TraceEvent) : Prop extends InSync w past where
  page : ∃ lengthMm rotate density begun page, lookup medium media = .ok (lengthMm, rotate) ∧
    lookup grade quality = .ok density ∧
    (pageRequest img tone content density lengthMm rotate).begin env = .ok begun ∧
    w.session.page = some page ∧ Filled img begun img.height page

include fleet in
theorem ensures_sendImage (img : GrayImage) (medium tone grade content : String)
    (inSync : InSync w past) :
    Ensures Orderly (sendImage env img medium tone grade content)
      ⟨fun _ => Sent env img medium tone grade content, fun _ => InSync, OnTrack⟩ w past := by
  unfold sendImage
  cases sized : lookup medium media with
  | error exc => exact Ensures.raise inSync
  | ok size =>
      obtain ⟨lengthMm, rotate⟩ := size
      cases graded : lookup grade quality with
      | error exc => exact Ensures.raise inSync
      | ok density =>
          apply Ensures.seq (ensures_call fleet inSync (.open none none))
          · intro _ w past inSync
            apply Ensures.seq (ensures_call fleet inSync (.waitReady none))
            · intro _ w past inSync
              set request := pageRequest img tone content density lengthMm rotate with request_eq
              cases accepted : request.begin env with
              | error exc =>
                  have called := (ensures_call fleet inSync (.pageBegin (.error exc))).and
                    (ensures_call_refused fun _ => Session.cmdPageBegin_eq _ _ _)
                  unfold sendPage
                  rw [accepted]
                  apply Ensures.seq called
                  · exact fun _ _ _ impossible => impossible.2.elim
                  · exact fun _ _ _ => And.left
                  · exact fun _ _ => And.left
              | ok begun =>
                  obtain ⟨bits, width, lengthRows, empty⟩ := PageRequest.begin_ok accepted
                  have bits : begun.bits = .eight := (Option.some.inj bits).symm
                  apply (ensures_sendPage fleet accepted (Int.ofNat.inj width)
                    (Int.ofNat.inj lengthRows) bits empty inSync).mono
                  · rintro _ w past ⟨inSync, page, held, filled⟩
                    exact ⟨inSync, lengthMm, rotate, density, begun, page, sized, graded, accepted,
                      held, filled⟩
                  · exact fun _ _ _ => False.elim
                  · exact fun _ _ => id
            · exact fun _ _ _ => id
            · exact fun _ _ => id
          · exact fun _ _ _ => id
          · exact fun _ _ => id

include fleet in
/-- A `page_end` the session answers with success has put the page on its printer's line, and the
`close` after it leaves it there. -/
theorem ensures_endPage (python : PythonText) (abortAfter : Option ℚ) (inSync : InSync w past) :
    Ensures Orderly (endPage env python abortAfter)
      ⟨fun impressions after past => impressions = 1 ∧ ∃ page p, w.Printable page p ∧
          page.DeliveredTo env (w.printers p).profile p after past,
        fun _ _ _ => True, OnTrack⟩ w past := by
  have ended : Ensures Orderly (call env .pageEnd)
      ⟨fun result after past => result = [("impressions", .int 1)] ∧ ∃ page p,
          w.Printable page p ∧ page.DeliveredTo env (w.printers p).profile p after past,
        fun _ _ _ => True, OnTrack⟩ w past := by
    apply Ensures.seq (ensures_pageEnd_delivers fleet inSync)
    · intro reply w past delivers
      cases reply with
      | ok result => exact Ensures.pure (delivers result rfl)
      | error text => exact Ensures.raise trivial
    · exact fun _ _ _ => False.elim
    · exact fun _ _ => id
  apply Ensures.seq ended
  · rintro _ w' past ⟨rfl, page, p, printable, image, bitmap, prepared, packed, delivered⟩
    apply Ensures.seq (ensures_lateAbort delivered)
    · intro _ w' past delivered
      apply Ensures.bind
      apply Ensures.seq (ensures_close delivered)
      · intro reply w past delivered
        cases reply with
        | ok result =>
            apply Ensures.pure
            exact Ensures.pure
              ⟨rfl, page, p, printable, image, bitmap, prepared, packed, delivered⟩
        | error text => exact Ensures.raise trivial
      · exact fun _ _ _ => False.elim
      · exact fun _ _ => id
    · exact fun _ _ _ => False.elim
    · exact fun _ _ => id
  · exact fun _ _ _ => id
  · exact fun _ _ => id

end Calls

/-- A `print_image` that returns has put its image, prepared for the printer as the arguments say,
on the paper of the bridge's printer, and nothing but blank rows after it. -/
theorem print_image_dots (env : Env) (python : PythonText) (usable : env.Usable) (w : World)
    (fresh : ∀ p, (w.printers p).Usable) (img : GrayImage) (medium tone grade content : String)
    (abortAfter : Option ℚ) (script unused : List Tick) (trace : List TraceEvent)
    (impressions : Int) (final : World)
    (ran : printImage env python img medium tone grade content abortAfter w script =
      ⟨trace, .returned impressions final unused⟩)
    (orderly : ∀ event ∈ trace, Orderly event) :
    impressions = 1 ∧
      ∃ lengthMm rotate density toneMode past sent unread p image inputs earlier sheet blank,
        lookup medium media = .ok (lengthMm, rotate) ∧ lookup grade quality = .ok density ∧
        (pageRequest img tone content density lengthMm rotate).toneMode env = .ok toneMode ∧
        sendImage env img medium tone grade content w script =
          ⟨past, .returned () sent unread⟩ ∧
        sent.bridge.printer = some p ∧
        preparePage env.diffuse img.image (sent.printers p).profile lengthMm toneMode rotate =
          .ok image ∧
        PrinterInput.parse (lineTo p trace).bytes = some inputs ∧
        paperOf inputs = earlier ++ sheet ++ blank ∧ Shows image sheet ∧ Blank blank := by
  have fleet := inSync_fleet usable
  have start : InSync w [] := ⟨fresh, fun _ _ => PrinterLine.whole_nil⟩
  obtain ⟨past, _, sent, unread, later, sends, ends, rfl⟩ := bind_returned_iff.mp ran
  have meets := ensures_sendImage fleet img medium tone grade content start script
    (by rw [sends]; exact fun event member => orderly event (List.mem_append_left _ member))
  rw [sends] at meets
  obtain ⟨inSync, lengthMm, rotate, density, begun, page, sized, graded, accepted, held, filled⟩ :
    Sent env img medium tone grade content sent past := meets
  have ended := ensures_endPage fleet python abortAfter inSync unread
    (by rw [ends]; exact fun event member => orderly event (List.mem_append_right _ member))
  rw [ends] at ended
  obtain ⟨one, other, p, printable, image, bitmap, prepared, packed, delivered⟩ := ended
  obtain rfl := Option.some.inj (held.symm.trans printable.inProgress)
  obtain ⟨named, length, turned⟩ := begin_fields accepted
  rw [filled.image, filled.mediaLengthMm, filled.tone, filled.rotate, length, turned] at prepared
  obtain ⟨inputs, earlier, sheet, blank, parsed, paper, shows, blanks⟩ := delivered.onPaper packed
  exact ⟨one, lengthMm, rotate, density, begun.tone, past, sent, unread, p, image, inputs, earlier,
    sheet, blank, sized, graded, named, sends, printable.held, prepared, parsed, paper, shows,
    blanks⟩

theorem eight_pos : 0 < 8 :=
  Nat.succ_pos 7

theorem manyRows_pos : 0 < 70 :=
  Nat.succ_pos 69

theorem blackStripe_length : (List.replicate 560 (0 : UInt8)).length = 70 * 8 :=
  List.length_replicate

/-- A stripe of seventy black rows, which take two messages. -/
def blackStripe : GrayImage where
  width := 8
  height := 70
  raw := List.replicate 560 0
  width_pos := eight_pos
  height_pos := manyRows_pos
  raw_length := blackStripe_length

/-- The stripe is printed by a bridge that has just been started: the printer is found, its lid is
closed and a sheet is in. -/
def blackStripePrinted : Run PyExc World Tick TraceEvent Int :=
  let silence : Tick := {}
  printImage stripEnv PageSession.plainText blackStripe "roll" "threshold" "normal" "auto" none
    freshWorld
    (scanned :: List.replicate 5 silence ++
      [{ incidents := [lidClosed] }, silence, { incidents := [sheetPresent] }] ++
      List.replicate 4 silence ++ printingAnswers ++ [silence])

/-- The rows of the stripe are sent in two messages. -/
theorem print_image_dots_stripe :
    starts blackStripe.height = [0, 64] ∧
      ∃ p image inputs earlier sheet blank,
        PrinterInput.parse (lineTo p blackStripePrinted.trace).bytes = some inputs ∧
        paperOf inputs = earlier ++ sheet ++ blank ∧ Shows image sheet ∧ Blank blank := by
  have orderly : ∀ event ∈ blackStripePrinted.trace, Orderly event := by decide +kernel
  obtain ⟨trace, impressions, final, unused, ran⟩ :=
    @Run.exists_of_hasReturned _ _ _ _ _ blackStripePrinted (by decide +kernel)
  rw [ran] at orderly ⊢
  obtain ⟨-, -, -, -, -, -, -, -, p, image, inputs, earlier, sheet, blank, -, -, -, -, -, -, parsed,
      paper, shows, blanks⟩ :=
    print_image_dots stripEnv PageSession.plainText stripEnv_usable freshWorld freshWorld_usable
      blackStripe "roll" "threshold" "normal" "auto" none _ unused trace impressions final ran
      orderly
  exact ⟨rfl, p, image, inputs, earlier, sheet, blank, parsed, paper, shows, blanks⟩

end BridgeClient

end Phomemo
