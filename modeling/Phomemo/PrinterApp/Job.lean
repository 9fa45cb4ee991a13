import Phomemo.Bridge.PageCommands

/-!
# The raster job pipeline

The callbacks that stream the printer app's raster lines to the bridge as pages, next to the page
the bridge session builds from them.  Rows are sent in batches, a failed call is remembered, and a
cancellation may come at any moment.
-/

namespace Phomemo

/-- `ROWS_PER_MESSAGE`. -/
def rowsPerMessage : Nat := 64

/-- The options of a page. -/
structure PageOptions where
  /-- `header.cupsBytesPerLine`. -/
  rowBytes : Nat
  /-- `header.cupsHeight`. -/
  height : Nat
  /-- `header.cupsBitsPerPixel`. -/
  bits : Nat
  /-- The vendor option. -/
  tone : Option String := none
  /-- `phomemo_content_name`. -/
  content : String := "auto"
  /-- `phomemo_density_for_quality`. -/
  density : String := "medium"
  /-- `phomemo_media_length_mm`. -/
  mediaLengthMm : ℚ
  /-- `phomemo_should_rotate`. -/
  rotate : Bool := false

/-- The `page_begin` of a page. -/
def PageOptions.request (options : PageOptions) : PageRequest where
  width := (options.rowBytes * 8 / options.bits : Nat)
  lengthRows := options.height
  bits := options.bits
  tone := options.tone.getD "auto"
  content := options.content
  density := options.density
  mediaLengthMm := options.mediaLengthMm
  rotate := options.rotate

/-- The requests of a page. -/
inductive PageCall where
  | waitReady
  | pageBegin (request : PageRequest)
  | lines (count : Nat) (payload : Bytes)
  | pageEnd

/-- Where `papplJobIsCanceled` is asked. -/
inductive CancelCheck where
  /-- In the event callback of a waiting call. -/
  | waiting
  /-- After `wait_ready` failed. -/
  | refused
  | line
  | pageEnd
  deriving DecidableEq, Repr

/-- What a job records. -/
inductive JobEvent where
  | checked (place : CancelCheck) (canceled : Bool)
  | abortSent
  /-- A row is copied behind this many. -/
  | copied (buffered : Nat)
  /-- A call is made; the page the session holds then, and whether the call returns a reply. -/
  | called (request : PageCall) (held : Option PageBuffer) (acknowledged : Bool)

/-- What `phomemo_device_bridge` comes to. -/
inductive DeviceFate where
  | open
  /-- The link had dropped, and a new session was opened. -/
  | reopened
  | unreachable (error : String)

/-- What becomes of a call on its way. -/
inductive CallFate where
  /-- The session never reads the request. -/
  | unsent (error : String)
  /-- The session handles the request, but the reply does not arrive. -/
  | unanswered (error : String)
  | answered

/-- What happens outside the job, at each of its steps. -/
structure JobEnv where
  bridge : Env
  /-- `papplJobIsCanceled`. -/
  canceled : Nat → Bool
  /-- A cancelled job stays cancelled. -/
  stays : ∀ earlier later, earlier ≤ later → canceled earlier = true → canceled later = true
  device : Nat → DeviceFate
  /-- Whether `realloc` succeeds. -/
  memory : Nat → Bool
  call : Nat → CallFate
  /-- How the session's `wait_ready` or the printing of a page ends. -/
  ends : Nat → Except PyExc Unit
  /-- Whether the session has a connected printer. -/
  connected : Nat → Bool
  /-- How often the event callback runs during a call. -/
  ticks : Nat → Nat

/-- `phomemo_job_t`. -/
structure PrintJob where
  buffer : Bytes := []
  rowBytes : Nat := 0
  buffered : Nat := 0
  pageOpen : Bool := false
  abortSent : Bool := false
  failed : Bool := false
  error : String := ""

/-- A job, the page its session holds, the steps taken, and what was recorded. -/
structure JobState where
  job : PrintJob := {}
  page : Option PageBuffer
  now : Nat
  log : List JobEvent := []

namespace PrintJob

/-- `fail`: only the first error is kept. -/
def fail (text : String) (job : PrintJob) : PrintJob :=
  if job.failed then job else { job with failed := true, error := text }

/-- The bytes of the rows in the buffer. -/
def pending (job : PrintJob) : Bytes := job.buffer.take (job.buffered * job.rowBytes)

/-- `memcpy` of a row behind the buffered ones. -/
def copy (line : Bytes) (job : PrintJob) : PrintJob :=
  { job with buffer := job.pending ++ line, buffered := job.buffered + 1 }

end PrintJob

namespace JobState

def setJob (change : PrintJob → PrintJob) (s : JobState) : JobState :=
  { s with job := change s.job }

/-- Record events and take a step. -/
def note (events : List JobEvent) (s : JobState) : JobState :=
  { s with now := s.now + 1, log := s.log ++ events }

end JobState

variable (env : JobEnv)

/-- The error text of a refused request. -/
def refusedText (exc : PyExc) : String :=
  let text := Session.errorText exc
  if text = "" then "bridge reported an error" else text

/-- What the session makes of a request. -/
def serve (now : Nat) (page : Option PageBuffer) : PageCall → Except PyExc Unit × Option PageBuffer
  | .waitReady => (env.ends now, page)
  | .pageBegin request =>
      match request.begin env.bridge with
      | .error exc => (.error exc, page)
      | .ok next => (.ok (), some next)
  | .lines count payload =>
      match Session.takeLines page (.ok count) payload with
      | .error exc => (.error exc, page)
      | .ok next => (.ok (), some next)
  | .pageEnd =>
      match page with
      | none => (.error (.commandError "no page in progress"), none)
      | some held =>
          if held.Complete then
            if env.connected now then (env.ends now, none)
            else (.error (.commandError "not connected"), some held)
          else
            let rows := held.rows
            let declared := held.lengthRows
            (.error (.commandError s!"received {rows} of {declared} rows"), some held)

/-- The outcome of a call, and the page the session holds after it. -/
def outcome (now : Nat) (page : Option PageBuffer) (request : PageCall) :
    Except String Unit × Option PageBuffer :=
  match env.call now with
  | .unsent text => (.error text, page)
  | .unanswered text => (.error text, (serve env now page request).2)
  | .answered =>
      ((serve env now page request).1.mapError refusedText, (serve env now page request).2)

/-- Ask whether the job was cancelled. -/
def check (place : CancelCheck) (s : JobState) : Bool × JobState :=
  (env.canceled s.now, s.note [.checked place (env.canceled s.now)])

/-- `abort_if_cancelled`. -/
def abortIfCancelled (s : JobState) : JobState :=
  if s.job.abortSent then s
  else
    let (canceled, s) := check env .waiting s
    if canceled then
      (s.note [.abortSent]).setJob fun job => { job with abortSent := true }
    else s

/-- `phomemo_bridge_call`, with `job_event_cb` if the call is `watched`. -/
def bridgeCall (request : PageCall) (watched : Bool) (s : JobState) :
    Except String Unit × JobState :=
  let (reply, page) := outcome env s.now s.page request
  let called := { s with page }.note [.called request s.page reply.toBool]
  (reply, if watched then (abortIfCancelled env)^[env.ticks s.now] called else called)

/-- `flush_rows`: send the buffered rows as one message. -/
def flushRows (s : JobState) : Bool × JobState :=
  if s.job.buffered = 0 ∨ s.job.failed then (!s.job.failed, s)
  else
    let (reply, s) := bridgeCall env (.lines s.job.buffered s.job.pending) false s
    let s := s.setJob fun job => { job with buffered := 0 }
    match reply with
    | .error text => (false, s.setJob (.fail text))
    | .ok () => (true, s)

/-- Wait for the printer, then declare the page. -/
def requestPage (options : PageOptions) (s : JobState) : Bool × JobState :=
  let (ready, s) := bridgeCall env .waitReady true s
  match ready with
  | .error _ => (false, (check env .refused s).2)
  | .ok () =>
      let (begun, s) := bridgeCall env (.pageBegin options.request) false s
      match begun with
      | .error _ => (false, s)
      | .ok () => (true, s.setJob fun job => { job with pageOpen := true })

/-- `phomemo_rstartpage_cb`. -/
def startPage (options : PageOptions) (s : JobState) : Bool × JobState :=
  match env.device s.now with
  | .unreachable _ => (false, s.note [])
  | reached =>
      let page := match reached with | .reopened => none | _ => s.page
      let s := ({ s with page }.note []).setJob fun job => { job with rowBytes := options.rowBytes }
      if !env.memory s.now then (false, s.note [])
      else
        requestPage env options
          ((s.note []).setJob fun job =>
            { job with buffered := 0, pageOpen := false, abortSent := false, failed := false })

/-- `phomemo_rwriteline_cb`. -/
def writeLine (line : Bytes) (s : JobState) : JobState :=
  if !s.job.pageOpen ∨ s.job.failed then s
  else
    let (canceled, s) := check env .line s
    if canceled then s
    else
      let s := (s.note [.copied s.job.buffered]).setJob (.copy line)
      if s.job.buffered = rowsPerMessage then (flushRows env s).2 else s

/-- `phomemo_rendpage_cb`. -/
def endPage (s : JobState) : Bool × JobState :=
  if !s.job.pageOpen then (false, s)
  else
    let (canceled, s) := check env .pageEnd (s.setJob fun job => { job with pageOpen := false })
    if canceled then (true, s)
    else
      let (flushed, s) := flushRows env s
      if !flushed then (false, s)
      else
        let (reply, s) := bridgeCall env .pageEnd true s
        (reply.toBool, s)

/-- A page as the callbacks get it: one row for each row of its height. -/
structure RasterPage where
  options : PageOptions
  rows : List Bytes
  /-- The caller goes on even when the start of the page is refused. -/
  goesOn : Bool := false
  counted : rows.length = options.height
  sized : ∀ row ∈ rows, row.length = options.rowBytes

/-- The callbacks of one page. -/
def drivePage (page : RasterPage) (s : JobState) : JobState :=
  let (started, s) := startPage env page.options s
  if started ∨ page.goesOn then
    (endPage env (page.rows.foldl (fun s line => writeLine env line s) s)).2
  else s

/-- The pages of a job, each with what it recorded. -/
def driveJob : List RasterPage → JobState → List (RasterPage × List JobEvent)
  | [], _ => []
  | page :: pages, s =>
      let final := drivePage env page { s with log := [] }
      (page, final.log) :: driveJob pages final

/-- A job as `phomemo_rstartjob_cb` leaves it. -/
def startJob (page : Option PageBuffer) (now : Nat) : JobState := { page, now }

/-! ## What a page owes -/

/-- The payloads of the `lines` messages. -/
def payloads (log : List JobEvent) : Bytes :=
  log.flatMap fun event =>
    match event with
    | .called (.lines _ payload) _ _ => payload
    | _ => []

@[simp]
theorem payloads_append (first later : List JobEvent) :
    payloads (first ++ later) = payloads first ++ payloads later := by
  simp [payloads]

/-- Every `lines` message was acknowledged. -/
def LinesAcknowledged (log : List JobEvent) : Prop :=
  ∀ count payload held acknowledged,
    .called (.lines count payload) held acknowledged ∈ log → acknowledged = true

/-- A page of the session holds exactly these rows, and was declared as high as the page. -/
structure Holds (page : RasterPage) (rows : List Bytes) (held : PageBuffer) : Prop where
  rowBytes : held.rowBytes = page.options.rowBytes
  declared : held.lengthRows = page.options.height
  count : held.rows = rows.length
  data : held.data = rows.flatten

/-- What the record of a page shows: the buffer was never full when a row was copied, and
`page_end` went out only for a page that was not cancelled and whose rows were all delivered. -/
structure Delivers (page : RasterPage) (log : List JobEvent) : Prop where
  roomy : ∀ buffered, .copied buffered ∈ log → buffered < rowsPerMessage
  delivered : ∀ before held acknowledged after,
    log = before ++ .called .pageEnd held acknowledged :: after →
      .checked .pageEnd false ∈ before ∧ (∀ place, .checked place true ∉ before) ∧
        LinesAcknowledged before ∧ payloads before = page.rows.flatten ∧
          ∃ buffer, held = some buffer ∧ Holds page page.rows buffer ∧
            buffer.rows = buffer.lengthRows

/-! ## Invariants of a page -/

/-- What holds at every step before `page_end`. -/
structure Sound (env : JobEnv) (s : JobState) : Prop where
  roomy : ∀ buffered, .copied buffered ∈ s.log → buffered < rowsPerMessage
  seen : ∀ place, .checked place true ∈ s.log → env.canceled s.now = true
  unended : ∀ held acknowledged, .called .pageEnd held acknowledged ∉ s.log

/-- The rows so far are those the session has acknowledged and those still in the buffer. -/
def Faithful (page : RasterPage) (done : List Bytes) (s : JobState) : Prop :=
  ∃ sent kept, done = sent ++ kept ∧ LinesAcknowledged s.log ∧ payloads s.log = sent.flatten ∧
    s.job.buffered = kept.length ∧ s.job.pending = kept.flatten ∧
      ∃ held, s.page = some held ∧ Holds page sent held

/-- Unless a call failed or the job was cancelled, no row is lost. -/
structure Streams (env : JobEnv) (page : RasterPage) (done : List Bytes) (s : JobState) :
    Prop where
  sound : Sound env s
  rowBytes : s.job.rowBytes = page.options.rowBytes
  faithful : s.job.failed = false → env.canceled s.now = false → Faithful page done s

/-- Between two rows. -/
def Between (env : JobEnv) (page : RasterPage) (done : List Bytes) (s : JobState) : Prop :=
  s.job.pageOpen = true ∧ Streams env page done s ∧ s.job.buffered < rowsPerMessage ∨
    s.job.pageOpen = false ∧ Sound env s

section
variable {env : JobEnv} {page : RasterPage} {done : List Bytes} {s : JobState}

/-- A job that is not cancelled was not cancelled before. -/
theorem JobEnv.earlier {earlier later : Nat} (order : earlier ≤ later)
    (running : env.canceled later = false) : env.canceled earlier = false := by
  cases canceled : env.canceled earlier with
  | false => rfl
  | true => exact absurd (env.stays _ _ order canceled) (by simp [running])

theorem Sound.note (sound : Sound env s) {events : List JobEvent}
    (roomy : ∀ buffered, .copied buffered ∈ events → buffered < rowsPerMessage)
    (seen : ∀ place, .checked place true ∈ events → env.canceled s.now = true)
    (unended : ∀ held acknowledged, .called .pageEnd held acknowledged ∉ events) :
    Sound env (s.note events) where
  roomy := by
    intro buffered member
    exact (List.mem_append.mp member).elim (sound.roomy buffered) (roomy buffered)
  seen := by
    intro place member
    have now := (List.mem_append.mp member).elim (sound.seen place) (seen place)
    exact env.stays _ _ (Nat.le_succ _) now
  unended := by
    intro held acknowledged member
    exact (List.mem_append.mp member).elim (sound.unended _ _) (unended _ _)

theorem Sound.check (sound : Sound env s) (place : CancelCheck) :
    Sound env (check env place s).2 :=
  sound.note (by simp) (by simp) (by simp)

theorem Sound.of_log {next : JobState} (sound : Sound env s) (log : next.log = s.log)
    (now : next.now = s.now) : Sound env next := by
  constructor
  · simpa only [log] using sound.roomy
  · simpa only [log, now] using sound.seen
  · simpa only [log] using sound.unended

/-- A reply came from the session. -/
theorem outcome_ok {now : Nat} {held next : Option PageBuffer} {request : PageCall}
    (replied : outcome env now held request = (.ok (), next)) :
    serve env now held request = (.ok (), next) := by
  unfold outcome at replied
  cases fate : env.call now with
  | unsent text => simp [fate] at replied
  | unanswered text => simp [fate] at replied
  | answered =>
      simp only [fate, Prod.mk.injEq] at replied
      obtain ⟨reply, rfl⟩ := replied
      cases served : (serve env now held request).1 with
      | error exc => simp [served, Except.mapError] at reply
      | ok value => exact Prod.ext served rfl

theorem flatten_sized {size : Nat} {rows : List Bytes} (sized : ∀ row ∈ rows, row.length = size) :
    rows.flatten.length = rows.length * size := by
  induction rows with
  | nil => simp
  | cons row rows ih =>
      simp only [List.mem_cons, forall_eq_or_imp] at sized
      rw [List.flatten_cons, List.length_append, sized.1, ih sized.2, List.length_cons,
        Nat.succ_mul, Nat.add_comm]

/-- Buffered rows that are acknowledged are in the session's page. -/
theorem takeLines_holds {held : PageBuffer} {sent kept : List Bytes}
    (holds : Holds page sent held) (rows : sent ++ kept <+: page.rows) (some_rows : kept ≠ []) :
    ∃ next, Session.takeLines (some held) (.ok kept.length) kept.flatten = .ok next ∧
      Holds page (sent ++ kept) next := by
  have sized : kept.flatten.length = kept.length * held.rowBytes := by
    rw [holds.rowBytes]
    exact flatten_sized fun row member =>
      page.sized row (rows.subset (List.mem_append_right _ member))
  have fits : held.rows + kept.length ≤ held.lengthRows := by
    have := rows.length_le
    rw [List.length_append, page.counted] at this
    rw [holds.declared, holds.count]
    exact this
  obtain ⟨next, taken, count, declared, rowBytes, data⟩ :=
    Session.takeLines_fits (List.length_pos_iff.mpr some_rows) sized fits
  refine ⟨next, taken, ?_, ?_, ?_, ?_⟩
  · rw [rowBytes, holds.rowBytes]
  · rw [declared, holds.declared]
  · rw [count, holds.count, List.length_append]
  · rw [data, holds.data, List.flatten_append]

/-- Looking at the cancellation loses nothing. -/
theorem Faithful.checked (faithful : Faithful page done s) (place : CancelCheck)
    (canceled : Bool) : Faithful page done (s.note [.checked place canceled]) := by
  obtain ⟨sent, kept, rows, acknowledged, sentBytes, buffered, pending, held, here, holds⟩ :=
    faithful
  refine ⟨sent, kept, rows, ?_, ?_, buffered, pending, held, here, holds⟩
  · intro count payload held' acknowledged' member
    simp only [JobState.note, List.mem_append, List.mem_singleton, reduceCtorEq, or_false] at member
    exact acknowledged count payload held' acknowledged' member
  · change payloads (s.log ++ [_]) = _
    rw [payloads_append, sentBytes]
    simp [payloads]

/-- What sending the buffered rows leaves. -/
structure Flushed (env : JobEnv) (page : RasterPage) (done : List Bytes) (s next : JobState)
    (sent : Bool) : Prop where
  sound : Sound env next
  rowBytes : next.job.rowBytes = s.job.rowBytes
  pageOpen : next.job.pageOpen = s.job.pageOpen
  buffered : next.job.buffered = 0
  sent_iff : sent = !next.job.failed
  later : s.now ≤ next.now
  unchecked : ∃ events, next.log = s.log ++ events ∧
    ∀ place canceled, .checked place canceled ∉ events
  faithful : Faithful page done s → next.job.failed = false → Faithful page done next

/-- Nothing is lost unless the call fails. -/
theorem flushRows_flushed (sound : Sound env s) (rows : done <+: page.rows)
    (working : s.job.failed = false) :
    Flushed env page done s (flushRows env s).2 (flushRows env s).1 := by
  unfold flushRows
  by_cases empty : s.job.buffered = 0
  · rw [if_pos (.inl empty)]
    exact ⟨sound, rfl, rfl, empty, rfl, Nat.le_refl _, ⟨[], by simp, by simp⟩, fun held _ => held⟩
  · rw [if_neg (by simp [empty, working])]
    have sound : ∀ held acknowledged,
        Sound env
          (JobState.note [.called (.lines s.job.buffered s.job.pending) held acknowledged]
            { s with page := (outcome env s.now s.page
              (.lines s.job.buffered s.job.pending)).2 }) :=
      fun held acknowledged => by
        have noted : Sound env
            (s.note [.called (.lines s.job.buffered s.job.pending) held acknowledged]) := by
          refine sound.note ?_ ?_ ?_ <;> simp
        exact noted.of_log rfl rfl
    simp only [bridgeCall, Bool.false_eq_true, if_false]
    cases replied : outcome env s.now s.page (.lines s.job.buffered s.job.pending) with
    | mk reply next =>
        rw [replied] at sound
        cases reply with
        | error text =>
            have failed : PrintJob.fail text { s.job with buffered := 0 } =
                { s.job with buffered := 0, failed := true, error := text } := by
              simp [PrintJob.fail, working]
            dsimp only [JobState.setJob, JobState.note]
            rw [failed]
            exact ⟨(sound _ _).of_log rfl rfl, rfl, rfl, rfl, rfl, Nat.le_succ _, ⟨_, rfl, by simp⟩,
              fun _ => nofun⟩
        | ok value =>
            cases value
            have served := outcome_ok replied
            dsimp only
            refine ⟨(sound _ _).of_log rfl rfl, rfl, rfl, rfl,
              by simp [JobState.setJob, JobState.note, working], Nat.le_succ _,
              ⟨_, rfl, by simp⟩, ?_⟩
            rintro
              ⟨sent, kept, rfl, acknowledged, sentBytes, buffered, pending, held, here, holds⟩ -
            have some_rows : kept ≠ [] := fun none => empty (by simp [buffered, none])
            obtain ⟨page', taken, holds'⟩ := takeLines_holds holds rows some_rows
            have reached : next = some page' := by
              simp [serve, here, buffered, pending, taken] at served
              exact served.symm
            refine ⟨sent ++ kept, [], by simp, ?_, ?_, rfl, ?_, page', reached, holds'⟩
            · intro count payload held' acknowledged' member
              rcases List.mem_append.mp member with earlier | last
              · exact acknowledged count payload held' acknowledged' earlier
              · simp only [List.mem_singleton, JobEvent.called.injEq] at last
                exact last.2.2
            · change payloads (s.log ++ [_]) = _
              rw [payloads_append, sentBytes, List.flatten_append, ← pending]
              simp [payloads]
            · simp [JobState.setJob, JobState.note, PrintJob.pending]

/-- A row is copied into the buffer, which is sent when it is full. -/
theorem writeLine_between {line : Bytes} (between : Between env page done s)
    (rows : done ++ [line] <+: page.rows) :
    Between env page (done ++ [line]) (writeLine env line s) := by
  unfold writeLine
  rcases between with ⟨opened, streams, small⟩ | ⟨closed, sound⟩
  · by_cases failed : s.job.failed = true
    · rw [if_pos (.inr failed)]
      refine .inl ⟨opened, ⟨streams.sound, streams.rowBytes, ?_⟩, small⟩
      simp [failed]
    · rw [if_neg (by simp [opened, failed])]
      simp only [Bool.not_eq_true] at failed
      have checked := streams.sound.check .line
      cases canceled : env.canceled s.now with
      | true =>
          have still : env.canceled (check env .line s).2.now = true :=
            env.stays _ _ (Nat.le_succ _) canceled
          simp only [check, canceled, if_true] at checked still ⊢
          refine .inl ⟨opened, ⟨checked, streams.rowBytes, ?_⟩, small⟩
          simp [still]
      | false =>
          have sized : line.length = page.options.rowBytes :=
            page.sized line (rows.subset (by simp))
          have copied : Sound env
              (((check env .line s).2.note [.copied s.job.buffered]).setJob (.copy line)) :=
            (checked.note (by simpa using small) (by simp) (by simp)).of_log rfl rfl
          have faithful : Faithful page (done ++ [line])
              (((check env .line s).2.note [.copied s.job.buffered]).setJob (.copy line)) := by
            obtain
              ⟨sent, kept, rfl, acknowledged, sentBytes, buffered, pending, held, here, holds⟩ :=
                streams.faithful failed canceled
            refine ⟨sent, kept ++ [line], by simp, ?_, ?_, ?_, ?_, held, here, holds⟩
            · intro count payload held' acknowledged' member
              simp [JobState.setJob, JobState.note, check] at member
              exact acknowledged count payload held' acknowledged' member
            · change payloads (s.log ++ [_] ++ [_]) = _
              rw [payloads_append, payloads_append, sentBytes]
              simp [payloads]
            · simp [JobState.setJob, JobState.note, check, PrintJob.copy, buffered]
            · have kept_sized : ∀ row ∈ kept, row.length = page.options.rowBytes :=
                fun row member => page.sized row (rows.subset (by simp [member]))
              have size : (s.job.pending ++ line).length =
                  (s.job.buffered + 1) * s.job.rowBytes := by
                rw [List.length_append, pending, flatten_sized kept_sized, sized, buffered,
                  streams.rowBytes, Nat.succ_mul]
              change (s.job.pending ++ line).take ((s.job.buffered + 1) * s.job.rowBytes) = _
              rw [← size, List.take_length, pending]
              simp
          have working : (((check env .line s).2.note [.copied s.job.buffered]).setJob
              (.copy line)).job.failed = false := failed
          simp only [check, canceled, Bool.false_eq_true, if_false] at copied faithful working ⊢
          split_ifs with full
          · have flushed := flushRows_flushed copied rows working
            refine .inl ⟨flushed.pageOpen.trans opened, ⟨flushed.sound, ?_, ?_⟩, ?_⟩
            · exact flushed.rowBytes.trans streams.rowBytes
            · exact fun unfailed _ => flushed.faithful faithful unfailed
            · exact lt_of_eq_of_lt flushed.buffered (by decide)
          · refine .inl ⟨opened, ⟨copied, streams.rowBytes, fun _ _ => faithful⟩, ?_⟩
            change s.job.buffered + 1 < rowsPerMessage
            change ¬s.job.buffered + 1 = rowsPerMessage at full
            omega
  · rw [if_pos (.inl (by simp [closed]))]
    exact .inr ⟨closed, sound⟩

/-- The rows of a page, one after the other. -/
theorem writeLines_between {rows : List Bytes} (between : Between env page done s)
    (order : done ++ rows <+: page.rows) :
    Between env page (done ++ rows) (rows.foldl (fun s line => writeLine env line s) s) := by
  induction rows generalizing done s with
  | nil => simpa using between
  | cons line rows ih =>
      have first : done ++ [line] <+: page.rows := by
        refine List.IsPrefix.trans ?_ order
        simp
      have later : done ++ [line] ++ rows <+: page.rows := by simpa using order
      simpa using ih (writeLine_between between first) later

/-! ## The start and the end of a page -/

/-- An event of a call other than `lines` and `page_end`. -/
def JobEvent.Idle : JobEvent → Prop
  | .checked _ _ => True
  | .abortSent => True
  | .copied _ => False
  | .called .waitReady _ _ => True
  | .called (.pageBegin _) _ _ => True
  | .called _ _ _ => False

/-- Only the cancellation is looked at. -/
structure Waits (env : JobEnv) (s next : JobState) : Prop where
  page : next.page = s.page
  job : ∃ sent, next.job = { s.job with abortSent := sent }
  later : s.now ≤ next.now
  events : ∃ events, next.log = s.log ++ events ∧ (∀ event ∈ events, event.Idle) ∧
    ∀ held acknowledged, .called .pageEnd held acknowledged ∉ events
  sound : Sound env s → Sound env next

theorem Waits.refl (s : JobState) : Waits env s s :=
  ⟨rfl, ⟨_, rfl⟩, Nat.le_refl _, ⟨[], by simp, by simp, by simp⟩, id⟩

theorem Waits.trans {first second third : JobState} (one : Waits env first second)
    (two : Waits env second third) : Waits env first third := by
  obtain ⟨sent, job⟩ := one.job
  obtain ⟨sent', job'⟩ := two.job
  obtain ⟨events, log, idle, unended⟩ := one.events
  obtain ⟨events', log', idle', unended'⟩ := two.events
  refine ⟨two.page.trans one.page, ⟨sent', by rw [job', job]⟩, one.later.trans two.later,
    ⟨events ++ events', by rw [log', log, List.append_assoc], ?_, ?_⟩, two.sound ∘ one.sound⟩
  · exact fun event member => (List.mem_append.mp member).elim (idle event) (idle' event)
  · intro held acknowledged member
    exact (List.mem_append.mp member).elim (unended _ _) (unended' _ _)

theorem abortIfCancelled_waits (s : JobState) : Waits env s (abortIfCancelled env s) := by
  unfold abortIfCancelled
  split_ifs with already
  · exact .refl s
  · have checked : Waits env s (check env .waiting s).2 :=
      ⟨rfl, ⟨_, rfl⟩, Nat.le_succ _, ⟨_, rfl, by simp [JobEvent.Idle], by simp⟩,
        fun sound => sound.check _⟩
    cases canceled : env.canceled s.now with
    | false => simpa [check, canceled] using checked
    | true =>
        simp only [check, canceled, if_true] at checked ⊢
        refine checked.trans ⟨rfl, ⟨_, rfl⟩, Nat.le_succ _,
          ⟨_, rfl, by simp [JobEvent.Idle], by simp⟩, fun sound => ?_⟩
        refine Sound.of_log (sound.note ?_ ?_ ?_) rfl rfl <;> simp

theorem ticks_wait (count : Nat) (s : JobState) :
    Waits env s ((abortIfCancelled env)^[count] s) := by
  induction count with
  | zero => exact .refl s
  | succ count ih =>
      rw [Function.iterate_succ_apply']
      exact ih.trans (abortIfCancelled_waits _)

theorem bridgeCall_waits (request : PageCall) (watched : Bool) (s : JobState) :
    (bridgeCall env request watched s).1 = (outcome env s.now s.page request).1 ∧
      Waits env
        (JobState.note
          [.called request s.page (outcome env s.now s.page request).1.toBool]
          { s with page := (outcome env s.now s.page request).2 })
        (bridgeCall env request watched s).2 := by
  unfold bridgeCall
  cases watched with
  | false => exact ⟨rfl, .refl _⟩
  | true => exact ⟨rfl, ticks_wait _ _⟩

/-- The record of a page before its first row. -/
structure Quiet (env : JobEnv) (s : JobState) : Prop where
  sound : Sound env s
  idle : ∀ event ∈ s.log, event.Idle

theorem Quiet.waits {next : JobState} (quiet : Quiet env s) (waits : Waits env s next) :
    Quiet env next := by
  obtain ⟨events, log, idle, -⟩ := waits.events
  refine ⟨waits.sound quiet.sound, fun event member => ?_⟩
  rw [log] at member
  exact (List.mem_append.mp member).elim (quiet.idle event) (idle event)

/-- A call before the first row. -/
theorem Quiet.bridgeCall (quiet : Quiet env s) (request : PageCall) (watched : Bool)
    (idle : ∀ held acknowledged, JobEvent.Idle (.called request held acknowledged))
    (unended : request ≠ .pageEnd) : Quiet env (bridgeCall env request watched s).2 := by
  refine Quiet.waits ⟨?_, ?_⟩ (bridgeCall_waits request watched s).2
  · have noted : Sound env
        (s.note [.called request s.page (outcome env s.now s.page request).1.toBool]) := by
      refine quiet.sound.note ?_ ?_ ?_
      · simp
      · simp
      · intro held acknowledged member
        simp only [List.mem_singleton, JobEvent.called.injEq] at member
        exact unended member.1.symm
    exact noted.of_log rfl rfl
  · intro event member
    rcases List.mem_append.mp member with earlier | last
    · exact quiet.idle event earlier
    · obtain rfl := List.mem_singleton.mp last
      exact idle _ _

theorem idle_payloads {log : List JobEvent} (idle : ∀ event ∈ log, event.Idle) :
    payloads log = [] := by
  refine List.flatMap_eq_nil_iff.mpr fun event member => ?_
  have := idle event member
  split
  · exact this.elim
  · rfl

/-- A page that was begun has the rows of the raster. -/
theorem begin_holds {held : PageBuffer}
    (begun : page.options.request.begin env.bridge = .ok held) : Holds page [] held := by
  obtain ⟨depth, width, rows, count, data⟩ := PageRequest.begin_ok begun
  refine ⟨?_, ?_, count, data⟩
  · have bits : (page.options.bits : Int) = held.bits.toNat := PageBits.ofInt_eq_some depth
    have bits : page.options.bits = held.bits.toNat := by omega
    have width : held.width = page.options.rowBytes * 8 / page.options.bits := by
      change (held.width : Int) = ((page.options.rowBytes * 8 / page.options.bits : Nat) : Int)
        at width
      omega
    rw [PageBuffer.rowBytes, width, bits]
    cases held.bits with
    | one => simp [PageBits.toNat]
    | eight => simp [PageBits.toNat]
  · change (held.lengthRows : Int) = (page.options.height : Int) at rows
    omega

/-- An acknowledged `page_begin` leaves an empty page. -/
theorem begin_served {now : Nat} {held next : Option PageBuffer}
    (served : serve env now held (.pageBegin page.options.request) = (.ok (), next)) :
    ∃ begun, next = some begun ∧ Holds page [] begun := by
  unfold serve at served
  cases made : page.options.request.begin env.bridge with
  | error exc => simp [made] at served
  | ok begun =>
      simp only [made, Prod.mk.injEq, true_and] at served
      exact ⟨begun, served.symm, begin_holds made⟩

theorem requestPage_between (quiet : Quiet env s) (closed : s.job.pageOpen = false)
    (empty : s.job.buffered = 0) (rowBytes : s.job.rowBytes = page.options.rowBytes) :
    Between env page [] (requestPage env page.options s).2 ∧
      (requestPage env page.options s).2.job.pageOpen = (requestPage env page.options s).1 := by
  have readied := @bridgeCall_waits env .waitReady true s
  have quiet := quiet.bridgeCall .waitReady true (fun _ _ => trivial) (by simp)
  obtain ⟨sent, job⟩ := readied.2.job
  simp only [requestPage]
  cases answer : bridgeCall env .waitReady true s with
  | mk ready next =>
      simp only [answer, JobState.note] at quiet job ⊢
      cases ready with
      | error text =>
          have closed : (check env .refused next).2.job.pageOpen = false := by
            simp [check, JobState.note, job, closed]
          exact ⟨.inr ⟨closed, quiet.sound.check _⟩, closed⟩
      | ok value =>
          cases value
          have quiet := quiet.bridgeCall (.pageBegin page.options.request) false
            (fun _ _ => trivial) (by simp)
          have begun := @bridgeCall_waits env (.pageBegin page.options.request) false next
          obtain ⟨sent', job'⟩ := begun.2.job
          dsimp only
          cases answer' : bridgeCall env (.pageBegin page.options.request) false next with
          | mk begun' final =>
              simp only [answer', JobState.note] at quiet begun job' ⊢
              cases begun' with
              | error text =>
                  have closed : final.job.pageOpen = false := by simp [job', job, closed]
                  exact ⟨.inr ⟨closed, quiet.sound⟩, closed⟩
              | ok value =>
                  cases value
                  refine ⟨.inl ⟨rfl, ⟨quiet.sound.of_log rfl rfl, ?_, fun _ _ => ?_⟩, ?_⟩, rfl⟩
                  · simp [JobState.setJob, job', job, rowBytes]
                  · have replied : outcome env next.now next.page
                        (.pageBegin page.options.request) = (.ok (), final.page) :=
                      Prod.ext begun.1.symm begun.2.page.symm
                    obtain ⟨held, here, holds⟩ := begin_served (outcome_ok replied)
                    refine ⟨[], [], rfl, ?_, idle_payloads quiet.idle, ?_, ?_, held, here, holds⟩
                    · exact fun _ _ _ _ member => (quiet.idle _ member).elim
                    · simp [JobState.setJob, job', job, empty]
                    · simp [JobState.setJob, job', job, empty, PrintJob.pending]
                  · simp [JobState.setJob, job', job, empty, rowsPerMessage]

theorem startPage_between (fresh : s.log = []) (closed : s.job.pageOpen = false) :
    Between env page [] (startPage env page.options s).2 ∧
      (startPage env page.options s).2.job.pageOpen = (startPage env page.options s).1 := by
  have sound : ∀ next : JobState, next.log = [] → Sound env next := by
    intro next empty
    constructor <;> simp [empty]
  unfold startPage
  split
  · exact ⟨.inr ⟨closed, sound _ (by simp [JobState.note, fresh])⟩, closed⟩
  · dsimp only
    split_ifs with full
    · refine ⟨.inr ⟨closed, sound _ ?_⟩, closed⟩
      simp [JobState.note, JobState.setJob, fresh]
    · refine requestPage_between ⟨sound _ ?_, ?_⟩ rfl rfl rfl <;>
        simp [JobState.note, JobState.setJob, fresh]

/-- A log has one place where something happened that did not happen before or after. -/
theorem split_unique {α : Type} {event event' : α} {first later before after : List α}
    (split : first ++ event :: later = before ++ event' :: after) (absent : event' ∉ first)
    (absent' : event' ∉ later) : before = first ∧ event' = event := by
  rcases List.append_eq_append_iff.mp split with ⟨more, rfl, rest⟩ | ⟨more, rfl, rest⟩
  · cases more with
    | nil => exact ⟨by simp, (List.cons.inj rest).1.symm⟩
    | cons head tail =>
        obtain ⟨-, rest⟩ := List.cons.inj rest
        exact absurd (by rw [rest]; simp) absent'
  · cases more with
    | nil => exact ⟨by simp, (List.cons.inj rest).1⟩
    | cons head tail =>
        obtain ⟨rfl, -⟩ := List.cons.inj rest
        exact absurd (by simp) absent

/-- Before `page_end` nothing is owed. -/
theorem Sound.delivers (sound : Sound env s) (page : RasterPage) : Delivers page s.log := by
  refine ⟨sound.roomy, fun before held acknowledged after split => ?_⟩
  exact absurd (by simp [split]) (sound.unended held acknowledged)

/-- `page_end` is sent for the whole page. -/
theorem pageEnd_delivers (sound : Sound env s) (faithful : Faithful page page.rows s)
    (empty : s.job.buffered = 0) (checked : .checked .pageEnd false ∈ s.log)
    (running : ∀ place, .checked place true ∉ s.log) :
    Delivers page (bridgeCall env .pageEnd true s).2.log := by
  obtain ⟨events, log, idle, unended⟩ := (@bridgeCall_waits env .pageEnd true s).2.events
  simp only [JobState.note, List.append_assoc, List.singleton_append] at log
  rw [log]
  refine ⟨?_, fun before held acknowledged after split => ?_⟩
  · intro buffered member
    simp only [List.mem_append, List.mem_cons, reduceCtorEq, false_or] at member
    exact member.elim (sound.roomy buffered) fun late => (idle _ late).elim
  · obtain ⟨rfl, same⟩ := split_unique split (sound.unended _ _) (unended _ _)
    obtain ⟨rfl, rfl⟩ := (JobEvent.called.inj same).2
    obtain ⟨sent, kept, rows, acknowledged, sentBytes, buffered, -, buffer, here, holds⟩ := faithful
    obtain rfl : kept = [] := List.length_eq_zero_iff.mp (buffered.symm.trans empty)
    rw [List.append_nil] at rows
    rw [← rows] at sentBytes holds
    refine ⟨checked, running, acknowledged, sentBytes, buffer, here, holds, ?_⟩
    rw [holds.count, holds.declared, page.counted]

/-- The page is ended, and `page_end` is sent for nothing but the whole page. -/
theorem endPage_delivers (between : Between env page page.rows s) :
    Delivers page (endPage env s).2.log ∧ (endPage env s).2.job.pageOpen = false := by
  unfold endPage
  rcases between with ⟨opened, streams, small⟩ | ⟨closed, sound⟩
  · rw [if_neg (by simp [opened])]
    have streams : Streams env page page.rows
        (s.setJob fun job => { job with pageOpen := false }) :=
      ⟨streams.sound.of_log rfl rfl, streams.rowBytes, streams.faithful⟩
    have closed : (s.setJob fun job => { job with pageOpen := false }).job.pageOpen = false := rfl
    generalize (s.setJob fun job => { job with pageOpen := false }) = ending at streams closed
    have checked := streams.sound.check .pageEnd
    cases canceled : env.canceled ending.now with
    | true =>
        simp only [check, canceled, if_true] at checked ⊢
        exact ⟨checked.delivers page, closed⟩
    | false =>
        simp only [check, canceled, Bool.false_eq_true, if_false] at checked ⊢
        cases failed : ending.job.failed with
        | true =>
            have unsent : flushRows env (ending.note [.checked .pageEnd false]) =
                (false, ending.note [.checked .pageEnd false]) := by
              simp [flushRows, JobState.note, failed]
            simp only [unsent, Bool.not_false, if_true]
            exact ⟨checked.delivers page, closed⟩
        | false =>
            have flushed := flushRows_flushed checked (List.prefix_refl page.rows) failed
            have faithful := (streams.faithful failed canceled).checked .pageEnd false
            have running : ∀ place, .checked place true ∉ ending.log := fun place member =>
              absurd (streams.sound.seen place member) (by simp [canceled])
            cases answer : flushRows env (ending.note [.checked .pageEnd false]) with
            | mk sent next =>
                rw [answer] at flushed
                obtain ⟨events, log, unchecked⟩ := flushed.unchecked
                change next.log = ending.log ++ [.checked .pageEnd false] ++ events at log
                cases sent with
                | false => exact ⟨flushed.sound.delivers page, flushed.pageOpen.trans closed⟩
                | true =>
                    have unfailed : next.job.failed = false := by simpa using flushed.sent_iff
                    obtain ⟨sent, job⟩ := (@bridgeCall_waits env .pageEnd true next).2.job
                    refine ⟨pageEnd_delivers flushed.sound (flushed.faithful faithful unfailed)
                      flushed.buffered (by simp [log]) ?_, ?_⟩
                    · simp [log, running, unchecked]
                    · simp only [Bool.not_true, Bool.false_eq_true, if_false, job, JobState.note]
                      exact flushed.pageOpen.trans closed
  · rw [if_pos (by simp [closed])]
    exact ⟨sound.delivers page, closed⟩

end

theorem drivePage_delivers (env : JobEnv) (page : RasterPage) {s : JobState} (fresh : s.log = [])
    (closed : s.job.pageOpen = false) :
    Delivers page (drivePage env page s).log ∧ (drivePage env page s).job.pageOpen = false := by
  have started := @startPage_between env page s fresh closed
  unfold drivePage
  cases answer : startPage env page.options s with
  | mk opened next =>
      rw [answer] at started
      dsimp only at started ⊢
      split_ifs with goes
      · exact endPage_delivers (writeLines_between started.1 (List.prefix_refl _))
      · simp only [not_or, Bool.not_eq_true] at goes
        have closed : next.job.pageOpen = false := started.2.trans goes.1
        rcases started.1 with ⟨opened, -⟩ | ⟨-, sound⟩
        · rw [closed] at opened
          cases opened
        · exact ⟨sound.delivers page, closed⟩

/-- In every job, whatever fails and whenever it is cancelled, `page_end` is sent only for a page
whose rows the session all holds. -/
theorem driveJob_delivers (env : JobEnv) (pages : List RasterPage) (page : Option PageBuffer)
    (now : Nat) :
    ∀ run ∈ driveJob env pages (startJob page now), Delivers run.1 run.2 := by
  have all : ∀ s : JobState, s.job.pageOpen = false →
      ∀ run ∈ driveJob env pages s, Delivers run.1 run.2 := by
    induction pages with
    | nil => simp [driveJob]
    | cons page pages ih =>
        intro s closed run member
        have driven := drivePage_delivers env page (s := { s with log := [] }) rfl closed
        rcases List.mem_cons.mp member with rfl | later
        · exact driven.1
        · exact ih _ driven.2 run later
  exact all _ rfl

/-- A job that nothing disturbs. -/
def calmJob (bridge : Env) : JobEnv where
  bridge
  canceled := fun _ => false
  stays := fun _ _ _ => id
  device := fun _ => .open
  memory := fun _ => true
  call := fun _ => .answered
  ends := fun _ => .ok ()
  connected := fun _ => true
  ticks := fun _ => 1

/-- A page of two rows of eight dots. -/
def twoRows : RasterPage where
  options := { rowBytes := 1, height := 2, bits := 1, mediaLengthMm := 297 }
  rows := [[0xff], [0x81]]
  counted := rfl
  sized := by simp

/-- The bridge of the M08F; Pillow's conversion is the sharp one here. -/
def bridgeOfM08f : Env where
  registry :=
    { profiles := [m08f]
      compile := anyName
      names_nodup := PrinterProfile.singleton_nodup m08f
      compiles := anyName_compiles [m08f] }
  upper := id
  repr := fun _ => ""
  diffuse := Image.pixel

/-- Both pages are sent and acknowledged, and delivered in full. -/
theorem driveJob_delivers_twoRows :
    ∃ run ∈ driveJob (calmJob bridgeOfM08f) [twoRows, twoRows] (startJob none 0),
      (run.2.any fun event =>
        match event with
        | .called .pageEnd _ acknowledged => acknowledged
        | _ => false) = true ∧ Delivers run.1 run.2 := by
  refine ⟨_, List.mem_cons_self, rfl, ?_⟩
  exact driveJob_delivers (calmJob bridgeOfM08f) [twoRows, twoRows] none 0 _ List.mem_cons_self

end Phomemo
