import Phomemo.Bridge.PrintImage
import Phomemo.PrinterApp.Job

/-!
# Raster pages on paper

The page record of a raster job meets the session that serves its calls.  A page whose `page_end` is
acknowledged was sent as `wait_ready`, `page_begin`, rows and `page_end`; a session that answers
these calls has the raster of the page in progress when it prints, so the raster is on paper.
-/

namespace Phomemo

open Async Coroutine

/-! ## The calls of a page -/

/-- The request of an event. -/
def JobEvent.request : JobEvent → Option PageCall
  | .called request _ _ => some request
  | _ => none

/-- The requests of a record. -/
def requests (log : List JobEvent) : List PageCall := log.filterMap JobEvent.request

/-- A `lines` request. -/
def linesCall (batch : Nat × Bytes) : PageCall := .lines batch.1 batch.2

@[simp]
theorem requests_append (first later : List JobEvent) :
    requests (first ++ later) = requests first ++ requests later :=
  List.filterMap_append

/-- These calls went out between two moments of a job. -/
def Sends (s next : JobState) (calls : List PageCall) : Prop :=
  requests next.log = requests s.log ++ calls

section

variable {env : JobEnv} {s next final : JobState}

theorem Sends.refl (s : JobState) : Sends s s [] :=
  (List.append_nil _).symm

theorem Sends.trans {first later : List PageCall} (sent : Sends s next first)
    (then_sent : Sends next final later) : Sends s final (first ++ later) := by
  rw [Sends, then_sent, sent, List.append_assoc]

theorem check_sends (place : CancelCheck) : Sends s (check env place s).2 [] := by
  change requests (s.log ++ _) = _
  rw [requests_append]
  rfl

theorem abortIfCancelled_sends (s : JobState) : Sends s (abortIfCancelled env s) [] := by
  unfold abortIfCancelled
  split_ifs with already
  · exact .refl s
  · have checked := @check_sends env s .waiting
    cases canceled : env.canceled s.now with
    | false =>
        simp only [check, canceled, Bool.false_eq_true, if_false] at checked ⊢
        exact checked
    | true =>
        simp only [check, canceled, if_true] at checked ⊢
        have aborted : Sends (s.note [.checked .waiting true])
            (((s.note [.checked .waiting true]).note [.abortSent]).setJob fun job =>
              { job with abortSent := true }) [] := by
          change requests (_ ++ [.abortSent]) = _
          rw [requests_append]
          rfl
        exact checked.trans aborted

theorem ticks_send (count : Nat) (s : JobState) :
    Sends s ((abortIfCancelled env)^[count] s) [] := by
  induction count with
  | zero => exact .refl s
  | succ count ih =>
      rw [Function.iterate_succ_apply']
      exact ih.trans (abortIfCancelled_sends _)

theorem bridgeCall_sends (request : PageCall) (watched : Bool) (s : JobState) :
    Sends s (bridgeCall env request watched s).2 [request] := by
  have called : Sends s (JobState.note
      [.called request s.page (outcome env s.now s.page request).1.toBool]
      { s with page := (outcome env s.now s.page request).2 }) [request] := by
    change requests (s.log ++ _) = _
    rw [requests_append]
    rfl
  unfold bridgeCall
  cases watched with
  | false => exact called
  | true => exact called.trans (ticks_send _ _)

/-- Sending the buffered rows is at most one `lines` request. -/
theorem flushRows_sends (s : JobState) :
    ∃ batches : List (Nat × Bytes), Sends s (flushRows env s).2 (batches.map linesCall) := by
  unfold flushRows
  split_ifs with idle
  · exact ⟨[], .refl s⟩
  · refine ⟨[(s.job.buffered, s.job.pending)], ?_⟩
    have sent := @bridgeCall_sends env (.lines s.job.buffered s.job.pending) false s
    dsimp only
    cases (bridgeCall env (.lines s.job.buffered s.job.pending) false s).1 with
    | error text => exact sent
    | ok value => exact sent

theorem writeLine_sends (line : Bytes) (s : JobState) :
    ∃ batches : List (Nat × Bytes), Sends s (writeLine env line s) (batches.map linesCall) := by
  unfold writeLine
  split_ifs with closed
  · exact ⟨[], .refl s⟩
  · have checked := @check_sends env s .line
    cases canceled : env.canceled s.now with
    | true =>
        simp only [check, canceled, if_true] at checked ⊢
        exact ⟨[], checked⟩
    | false =>
        simp only [check, canceled, Bool.false_eq_true, if_false] at checked ⊢
        have copied : Sends (s.note [.checked .line false])
            (((s.note [.checked .line false]).note [.copied s.job.buffered]).setJob (.copy line))
            [] := by
          change requests (_ ++ [.copied s.job.buffered]) = _
          rw [requests_append]
          rfl
        split_ifs with full
        · obtain ⟨batches, flushed⟩ := @flushRows_sends env
            (((s.note [.checked .line false]).note [.copied s.job.buffered]).setJob (.copy line))
          exact ⟨batches, (checked.trans copied).trans flushed⟩
        · exact ⟨[], checked.trans copied⟩

theorem writeLines_send (rows : List Bytes) (s : JobState) :
    ∃ batches : List (Nat × Bytes),
      Sends s (rows.foldl (fun s line => writeLine env line s) s) (batches.map linesCall) := by
  induction rows generalizing s with
  | nil => exact ⟨[], .refl s⟩
  | cons line rows ih =>
      obtain ⟨first, sent⟩ := @writeLine_sends env line s
      obtain ⟨later, then_sent⟩ := ih (writeLine env line s)
      refine ⟨first ++ later, ?_⟩
      rw [List.map_append]
      exact sent.trans then_sent

/-- A page that is started was waited for and declared. -/
theorem startPage_sends {options : PageOptions} (started : (startPage env options s).1 = true) :
    Sends s (startPage env options s).2 [.waitReady, .pageBegin options.request] := by
  have noted : ∀ s : JobState, requests (s.note []).log = requests s.log := by
    intro s
    change requests (s.log ++ []) = _
    rw [List.append_nil]
  unfold startPage at started ⊢
  split at started
  · cases started
  · rename_i reached reaches
    dsimp only at started ⊢
    split_ifs at started ⊢ with full
    have asked : ∀ s : JobState, (requestPage env options s).1 = true →
        Sends s (requestPage env options s).2 [.waitReady, .pageBegin options.request] := by
      intro s accepted
      have readied := @bridgeCall_sends env .waitReady true s
      unfold requestPage at accepted ⊢
      cases ready : bridgeCall env .waitReady true s with
      | mk answer waited =>
          rw [ready] at accepted readied
          cases answer with
          | error text => cases accepted
          | ok value =>
              have begun := @bridgeCall_sends env (.pageBegin options.request) false waited
              dsimp only at accepted begun ⊢
              cases declared : bridgeCall env (.pageBegin options.request) false waited with
              | mk answer' opened =>
                  rw [declared] at accepted begun
                  cases answer' with
                  | error text => cases accepted
                  | ok value' => exact readied.trans begun
    have sent := asked _ started
    rw [Sends] at sent ⊢
    rw [sent]
    congr 1
    exact (noted _).trans (noted _)

/-- The end of a page sends the rows that are left, and then `page_end` if it sends it at all. -/
theorem endPage_sends (s : JobState) :
    ∃ batches : List (Nat × Bytes), Sends s (endPage env s).2 (batches.map linesCall) ∨
      Sends s (endPage env s).2 (batches.map linesCall ++ [.pageEnd]) := by
  unfold endPage
  split_ifs with closed
  · exact ⟨[], .inl (.refl s)⟩
  · generalize ended : (s.setJob fun job => { job with pageOpen := false }) = ending
    have same : ending.log = s.log := by
      rw [← ended]
      rfl
    have checked : Sends s (check env .pageEnd ending).2 [] := by
      rw [Sends, @check_sends env ending .pageEnd, same]
    cases canceled : env.canceled ending.now with
    | true =>
        simp only [check, canceled, if_true] at checked ⊢
        exact ⟨[], .inl checked⟩
    | false =>
        simp only [check, canceled, Bool.false_eq_true, if_false] at checked ⊢
        obtain ⟨batches, flushed⟩ := @flushRows_sends env (ending.note [.checked .pageEnd false])
        refine ⟨batches, ?_⟩
        split_ifs with failed
        · exact .inl (checked.trans flushed)
        · exact .inr ((checked.trans flushed).trans (bridgeCall_sends _ _ _))

/-- A page whose `page_end` went out was waited for, declared, sent in batches and ended. -/
theorem drivePage_requests {page : RasterPage} {held : Option PageBuffer} {acknowledged : Bool}
    (fresh : s.log = []) (closed : s.job.pageOpen = false)
    (ended : .called .pageEnd held acknowledged ∈ (drivePage env page s).log) :
    ∃ batches : List (Nat × Bytes), requests (drivePage env page s).log =
      .waitReady :: .pageBegin page.options.request :: (batches.map linesCall ++ [.pageEnd]) := by
  have started := @startPage_between env page s fresh closed
  have sent := @startPage_sends env s page.options
  unfold drivePage at ended ⊢
  cases answer : startPage env page.options s with
  | mk opened next =>
      rw [answer] at started sent
      simp only [answer] at started sent ended ⊢
      cases opened with
      | true =>
          have sent := sent rfl
          rw [Sends, fresh] at sent
          simp only [true_or, if_true] at ended ⊢
          obtain ⟨first, rows⟩ := @writeLines_send env page.rows next
          rw [Sends, sent] at rows
          obtain ⟨later, rest | rest⟩ :=
            @endPage_sends env (page.rows.foldl (fun s line => writeLine env line s) next)
          · have asked : PageCall.pageEnd ∈ requests _ := List.mem_filterMap.mpr ⟨_, ended, rfl⟩
            rw [rest, rows] at asked
            simp [requests, linesCall] at asked
          · refine ⟨first ++ later, ?_⟩
            rw [rest, rows, List.map_append]
            simp [requests]
      | false =>
          have unopened : next.job.pageOpen = false := started.2
          have unended : ∀ held acknowledged,
              .called .pageEnd held acknowledged ∉ next.log := by
            rcases started.1 with ⟨opened, -⟩ | ⟨-, sound⟩
            · rw [unopened] at opened
              cases opened
            · exact sound.unended
          have ignored : ∀ rows : List Bytes,
              rows.foldl (fun s line => writeLine env line s) next = next := by
            intro rows
            induction rows with
            | nil => rfl
            | cons line rows ih =>
                have kept : writeLine env line next = next := by
                  unfold writeLine
                  rw [if_pos (.inl (by rw [unopened]; rfl))]
                rw [List.foldl_cons, kept, ih]
          rw [ignored] at ended
          have skipped : (endPage env next).2 = next := by
            unfold endPage
            rw [if_pos (by rw [unopened]; rfl)]
          rw [skipped] at ended
          split_ifs at ended <;> exact absurd ended (unended _ _)

/-- What every page of a job does, whatever the job has done before. -/
theorem driveJob_forall {motive : RasterPage → List JobEvent → Prop} {pages : List RasterPage}
    (driven : ∀ page (s : JobState), s.log = [] → s.job.pageOpen = false →
      motive page (drivePage env page s).log) (closed : s.job.pageOpen = false) :
    ∀ run ∈ driveJob env pages s, motive run.1 run.2 := by
  induction pages generalizing s with
  | nil => exact fun run member => absurd member List.not_mem_nil
  | cons page pages ih =>
      intro run member
      rcases List.mem_cons.mp member with rfl | later
      · exact driven page _ rfl closed
      · exact ih (drivePage_delivers env page (s := { s with log := [] }) rfl closed).2 run later

/-- The bytes of a request. -/
def PageCall.payload : PageCall → Bytes
  | .lines _ payload => payload
  | _ => []

theorem payloads_eq (log : List JobEvent) :
    payloads log = (requests log).flatMap PageCall.payload := by
  induction log with
  | nil => rfl
  | cons event log ih =>
      change payloads ([event] ++ log) = (requests ([event] ++ log)).flatMap _
      rw [payloads_append, requests_append, List.flatMap_append, ih]
      congr 1
      cases event with
      | called request held acknowledged => cases request <;> rfl
      | checked place canceled => rfl
      | abortSent => rfl
      | copied buffered => rfl

/-- The batches of a page that was ended are its rows. -/
theorem drivePage_batches {page : RasterPage} {held : Option PageBuffer} {acknowledged : Bool}
    (fresh : s.log = []) (closed : s.job.pageOpen = false)
    (ended : .called .pageEnd held acknowledged ∈ (drivePage env page s).log) :
    ∃ batches : List (Nat × Bytes), requests (drivePage env page s).log =
      .waitReady :: .pageBegin page.options.request :: (batches.map linesCall ++ [.pageEnd]) ∧
      batches.flatMap Prod.snd = page.rows.flatten := by
  obtain ⟨batches, requested⟩ := drivePage_requests fresh closed ended
  refine ⟨batches, requested, ?_⟩
  obtain ⟨before, after, split⟩ := List.append_of_mem ended
  obtain ⟨-, -, -, delivered, -⟩ :=
    (drivePage_delivers env page fresh closed).1.delivered _ _ _ _ split
  have parts := requested
  rw [split, requests_append] at parts
  change requests before ++ .pageEnd :: requests after =
    (.waitReady :: .pageBegin page.options.request :: batches.map linesCall) ++ .pageEnd :: []
    at parts
  have absent : PageCall.pageEnd ∉
      .waitReady :: .pageBegin page.options.request :: batches.map linesCall := by
    simp [linesCall]
  obtain ⟨first, -⟩ := split_unique parts.symm absent List.not_mem_nil
  rw [← delivered, payloads_eq, first]
  simp [linesCall, List.flatMap_map, PageCall.payload]

end

/-! ## The session that answers them -/

/-- The raster of a page, 0 = black in both depths. -/
def RasterPage.image (page : RasterPage) : Image where
  mode := if page.options.bits = 1 then .bilevel else .gray
  width := page.options.rowBytes * 8 / page.options.bits
  height := page.options.height
  pixel := fun x y =>
    if page.options.bits = 1 then
      let byte := page.rows.flatten.getD (y * page.options.rowBytes + x / 8) 0
      if byte.toNat / 2 ^ (7 - x % 8) % 2 = 1 then 0 else 255
    else page.rows.flatten.getD (y * page.options.rowBytes + x) 0

/-- The command of a request. -/
def PageCall.command (env : Env) : PageCall → Command
  | .waitReady => .waitReady none
  | .pageBegin request => .pageBegin (request.begin env)
  | .lines count payload => .lines (.ok count) payload
  | .pageEnd => .pageEnd

/-- The session answers these requests, each with success. -/
def acknowledge (env : Env) (calls : List PageCall) : Py Unit :=
  forEach calls fun request => do
    let _ ← BridgeClient.call env (request.command env)

/-- The page in progress is the begun page with these rows. -/
structure Collected (begun page : PageBuffer) (payload : Bytes) : Prop where
  width : page.width = begun.width
  lengthRows : page.lengthRows = begun.lengthRows
  bits : page.bits = begun.bits
  tone : page.tone = begun.tone
  mediaLengthMm : page.mediaLengthMm = begun.mediaLengthMm
  rotate : page.rotate = begun.rotate
  data : page.data = payload

/-- Rows that are taken come behind the others. -/
theorem Collected.takes {begun page next : PageBuffer} {payload more : Bytes} {count : Int}
    (collected : Collected begun page payload)
    (taken : Session.takeLines (some page) (.ok count) more = .ok next) :
    Collected begun next (payload ++ more) := by
  simp only [Session.takeLines] at taken
  split_ifs at taken with sized fits
  obtain rfl := Except.ok.inj taken
  exact ⟨collected.width, collected.lengthRows, collected.bits, collected.tone,
    collected.mediaLengthMm, collected.rotate, congrArg (· ++ more) collected.data⟩

/-- A complete page with the rows of a raster is the raster. -/
theorem Collected.image {env : Env} {raster : RasterPage} {begun page : PageBuffer}
    (accepted : raster.options.request.begin env = .ok begun)
    (collected : Collected begun page raster.rows.flatten) (complete : page.Complete) :
    page.image = raster.image := by
  obtain ⟨depth, width, lengthRows, -, -⟩ := PageRequest.begin_ok accepted
  have bits : (raster.options.bits : Int) = begun.bits.toNat := PageBits.ofInt_eq_some depth
  have bits : raster.options.bits = begun.bits.toNat := by omega
  have width : begun.width = raster.options.rowBytes * 8 / raster.options.bits := by
    change (begun.width : Int) = ((raster.options.rowBytes * 8 / raster.options.bits : Nat) : Int)
      at width
    omega
  have height : page.rows = raster.options.height := by
    change (begun.lengthRows : Int) = (raster.options.height : Int) at lengthRows
    rw [complete, collected.lengthRows]
    omega
  have rowBytes : page.rowBytes = raster.options.rowBytes := by
    rw [PageBuffer.rowBytes, collected.width, collected.bits, width, bits]
    cases begun.bits with
    | one => simp [PageBits.toNat]
    | eight => simp [PageBits.toNat]
  unfold PageBuffer.image RasterPage.image
  rw [collected.bits, collected.width, height, rowBytes, collected.data, width, bits]
  cases begun.bits with
  | one => rfl
  | eight => rfl

section Calls

open BridgeClient

variable {env : Env} {w : World} {past : List TraceEvent}
variable (fleet : FleetStable env Orderly InSync Dialed)

include fleet in
/-- An acknowledged `page_begin` starts the page it asks for. -/
theorem ensures_call_begin (inSync : InSync w past) (request : PageRequest) :
    Ensures Orderly (call env (.pageBegin (request.begin env)))
      ⟨fun _ w past => InSync w past ∧ ∃ begun, request.begin env = .ok begun ∧
          w.session.page = some begun,
        fun _ _ _ => True, OnTrack⟩ w past := by
  cases accepted : request.begin env with
  | error exc =>
      have called := (ensures_call fleet inSync (.pageBegin (.error exc))).and
        (ensures_call_refused fun _ => Session.cmdPageBegin_eq _ _ _)
      exact called.mono (fun _ _ _ returned => returned.2.elim) (fun _ _ _ _ => trivial)
        fun _ _ => And.left
  | ok begun =>
      have called := (ensures_call fleet inSync (.pageBegin (.ok begun))).and
        (@ensures_call_page env w past Orderly _ [] begun fun _ => Session.cmdPageBegin_eq _ _ _)
      exact called.mono (fun _ _ _ returned => ⟨returned.1, begun, rfl, returned.2⟩)
        (fun _ _ _ _ => trivial) fun _ _ => And.left

include fleet in
/-- Acknowledged rows are in the page. -/
theorem Collected.ensures_call_lines {begun page : PageBuffer} {payload : Bytes}
    (collected : Collected begun page payload) (held : w.session.page = some page)
    (inSync : InSync w past) (batch : Nat × Bytes) :
    Ensures Orderly (call env ((linesCall batch).command env))
      ⟨fun _ w past => InSync w past ∧ ∃ page, w.session.page = some page ∧
          Collected begun page (payload ++ batch.2),
        fun _ _ _ => True, OnTrack⟩ w past := by
  change Ensures Orderly (call env (.lines (.ok batch.1) batch.2)) _ _ _
  cases taken : Session.takeLines (some page) (.ok batch.1) batch.2 with
  | error exc =>
      have refused : ∀ script, Session.handler env (.lines (.ok batch.1) batch.2)
          (w.accept (.lines (.ok batch.1) batch.2)) script =
          ⟨[], .raised exc (w.accept (.lines (.ok batch.1) batch.2)) script⟩ := by
        intro script
        have here : (w.accept (.lines (.ok batch.1) batch.2)).session.page = some page := held
        change Session.cmdLines _ _ _ _ = _
        rw [Session.cmdLines_eq, here, taken]
      have called := (ensures_call fleet inSync (.lines (.ok batch.1) batch.2)).and
        (ensures_call_refused refused)
      exact called.mono (fun _ _ _ returned => returned.2.elim) (fun _ _ _ _ => trivial)
        fun _ _ => And.left
  | ok next =>
      have here : (w.accept (.lines (.ok batch.1) batch.2)).session.page = some page := held
      have called := (ensures_call fleet inSync (.lines (.ok batch.1) batch.2)).and
        (@ensures_call_page env w past Orderly _ [("rows", .int next.rows)] next
          (cmdLines_taken here taken))
      exact called.mono
        (fun _ _ _ returned => ⟨returned.1, next, returned.2, collected.takes taken⟩)
        (fun _ _ _ _ => trivial) fun _ _ => And.left

/-- The first of several requests, and then the others. -/
theorem ensures_acknowledge_cons {request : PageCall} {calls : List PageCall}
    {after final : World → List TraceEvent → Prop}
    (called : Ensures Orderly (call env (request.command env))
      ⟨fun _ => after, fun _ _ _ => True, OnTrack⟩ w past)
    (rest : ∀ w past, after w past → Ensures Orderly (acknowledge env calls)
      ⟨fun _ => final, fun _ _ _ => True, OnTrack⟩ w past) :
    Ensures Orderly (acknowledge env (request :: calls))
      ⟨fun _ => final, fun _ _ _ => True, OnTrack⟩ w past := by
  apply Ensures.bind
  apply Ensures.seq called
  · exact fun _ w past holds => Ensures.pure (rest w past holds)
  · exact fun _ _ _ => id
  · exact fun _ _ => id

include fleet in
theorem Collected.ensures_batches {begun page : PageBuffer} {payload : Bytes}
    (collected : Collected begun page payload) (held : w.session.page = some page)
    (inSync : InSync w past) (batches : List (Nat × Bytes)) :
    Ensures Orderly (acknowledge env (batches.map linesCall))
      ⟨fun _ w past => InSync w past ∧ ∃ page, w.session.page = some page ∧
          Collected begun page (payload ++ batches.flatMap Prod.snd),
        fun _ _ _ => True, OnTrack⟩ w past := by
  induction batches generalizing w past page payload with
  | nil =>
      refine Ensures.pure ⟨inSync, page, held, ?_⟩
      rw [List.flatMap_nil, List.append_nil]
      exact collected
  | cons batch batches ih =>
      apply ensures_acknowledge_cons (collected.ensures_call_lines fleet held inSync batch)
      rintro w past ⟨inSync, page, held, collected⟩
      rw [List.flatMap_cons, ← List.append_assoc]
      exact ih collected held inSync

include fleet in
/-- A session that has answered the calls of a page up to `page_end` has its rows in progress. -/
theorem ensures_acknowledge (inSync : InSync w past) (request : PageRequest)
    (batches : List (Nat × Bytes)) :
    Ensures Orderly
      (acknowledge env (.waitReady :: .pageBegin request :: batches.map linesCall))
      ⟨fun _ w past => InSync w past ∧ ∃ begun page, request.begin env = .ok begun ∧
          w.session.page = some page ∧ Collected begun page (batches.flatMap Prod.snd),
        fun _ _ _ => True, OnTrack⟩ w past := by
  have waited : Ensures Orderly (call env (PageCall.waitReady.command env))
      ⟨fun _ => InSync, fun _ _ _ => True, OnTrack⟩ w past :=
    (ensures_call fleet inSync (.waitReady none)).mono (fun _ _ _ => id) (fun _ _ _ _ => trivial)
      fun _ _ => id
  apply ensures_acknowledge_cons waited
  intro w past inSync
  apply ensures_acknowledge_cons (ensures_call_begin fleet inSync request)
  rintro w past ⟨inSync, begun, accepted, held⟩
  obtain ⟨-, -, -, -, empty⟩ := PageRequest.begin_ok accepted
  have start : Collected begun begun [] := ⟨rfl, rfl, rfl, rfl, rfl, rfl, empty⟩
  apply (start.ensures_batches fleet held inSync batches).mono
  · rintro _ w past ⟨inSync, page, held, collected⟩
    exact ⟨inSync, begun, page, accepted, held, collected⟩
  · exact fun _ _ _ => id
  · exact fun _ _ => id

end Calls

/-! ## Printed jobs -/

/-- In every job, a page whose `page_end` is acknowledged was sent as `wait_ready`, `page_begin`,
its rows in batches and `page_end`.  A session that acknowledges these calls, whatever was done on
the bridge before, has put the page on the paper of the bridge's printer: the raster, prepared for
the printer as the options of the page say. -/
theorem driveJob_dots (env : Env) (usable : env.Usable) (job : JobEnv) (pages : List RasterPage)
    (held : Option PageBuffer) (now : Nat) (page : RasterPage) (log : List JobEvent)
    (driven : (page, log) ∈ driveJob job pages (startJob held now))
    (printed : ∃ held, .called .pageEnd held true ∈ log) :
    ∃ batches : List (Nat × Bytes),
      requests log =
        .waitReady :: .pageBegin page.options.request :: (batches.map linesCall ++ [.pageEnd]) ∧
      batches.flatMap Prod.snd = page.rows.flatten ∧
      ∀ (w : World) (moves : List Session.Move) (first second third : List Tick)
        (past sends trace : List TraceEvent) (before sent after : World)
        (unread unsent unused : List Tick) (result : Result),
        (∀ p, (w.printers p).Usable) →
        Session.runMoves env moves w first = ⟨past, .returned () before unread⟩ →
        acknowledge env (.waitReady :: .pageBegin page.options.request :: batches.map linesCall)
          before second = ⟨sends, .returned () sent unsent⟩ →
        Session.runCommand env .pageEnd sent third =
          ⟨trace, .returned (.ok result) after unused⟩ →
        (∀ event ∈ past ++ sends ++ trace, Orderly event) →
        ∃ p tone image inputs earlier sheet blank,
          sent.bridge.printer = some p ∧ page.options.request.toneMode env = .ok tone ∧
          preparePage env.diffuse page.image (sent.printers p).profile
            (some page.options.mediaLengthMm) tone page.options.rotate = .ok image ∧
          PrinterInput.parse (lineTo p (past ++ sends ++ trace)).bytes = some inputs ∧
          paperOf inputs = earlier ++ sheet ++ blank ∧ Shows image sheet ∧ Blank blank := by
  obtain ⟨ended, member⟩ := printed
  obtain ⟨batches, requested, rows⟩ :=
    (driveJob_forall (motive := fun page log => .called .pageEnd ended true ∈ log →
      ∃ batches : List (Nat × Bytes), requests log =
        .waitReady :: .pageBegin page.options.request :: (batches.map linesCall ++ [.pageEnd]) ∧
        batches.flatMap Prod.snd = page.rows.flatten)
      (fun _ _ fresh closed => drivePage_batches fresh closed) rfl _ driven) member
  refine ⟨batches, requested, rows, ?_⟩
  intro w moves first second third past sends trace before sent after unread unsent unused result
    fresh ran served answered orderly
  have fleet := inSync_fleet usable
  have start : InSync w [] := ⟨fresh, fun _ _ => PrinterLine.whole_nil⟩
  have orderly_past : ∀ event ∈ (Session.runMoves env moves w first).trace, Orderly event := by
    rw [ran]
    exact fun event member =>
      orderly event (List.mem_append_left _ (List.mem_append_left _ member))
  have rested := (inSync_runs fleet).returned moves start orderly_past (by rw [ran]; rfl)
  rw [ran] at rested
  have resting : InSync before past := rested
  have taken := ensures_acknowledge fleet resting page.options.request batches second
    (by
      rw [served]
      exact fun event member =>
        orderly event (List.mem_append_left _ (List.mem_append_right _ member)))
  rw [served] at taken
  obtain ⟨inSync, begun, progress, accepted, inProgress, collected⟩ := taken
  have meets := ensures_pageEnd_delivers fleet inSync third
    (by rw [answered]; exact fun event member => orderly event (List.mem_append_right _ member))
  rw [answered] at meets
  obtain ⟨-, other, p, printable, image, bitmap, prepared, packed, delivered⟩ := meets result rfl
  obtain rfl := Option.some.inj (inProgress.symm.trans printable.inProgress)
  obtain ⟨named, length, turned⟩ := BridgeClient.begin_fields accepted
  rw [rows] at collected
  rw [collected.image accepted printable.complete, collected.mediaLengthMm, collected.tone,
    collected.rotate, length, turned] at prepared
  obtain ⟨inputs, earlier, sheet, blank, parsed, paper, shows, blanks⟩ := delivered.onPaper packed
  exact ⟨p, begun.tone, image, inputs, earlier, sheet, blank, printable.held, named, prepared,
    parsed, paper, shows, blanks⟩

/-- What a job of two rows records when nothing disturbs it. -/
def twoRowsLog : List JobEvent :=
  (drivePage (calmJob stripEnv) twoRows (startJob none 0)).log

/-- The bridge is opened. -/
def openedBridge : Run PyExc World Tick TraceEvent Unit :=
  let silence : Tick := {}
  Session.runMoves stripEnv [.begins, .command (.open none none)] freshWorld
    (scanned :: List.replicate 4 silence)

/-- The lid is closed, and a sheet is in. -/
def twoRowsAnswers : List Tick :=
  let silence : Tick := {}
  [silence, { incidents := [lidClosed] }, silence, { incidents := [sheetPresent] }, silence,
    silence, silence]

/-- The session waits for the sheet and takes the rows. -/
def twoRowsServed : Run PyExc World Tick TraceEvent Unit :=
  acknowledge stripEnv (requests twoRowsLog).dropLast openedBridge.ending.state twoRowsAnswers

/-- The session prints them. -/
def twoRowsPrinted : Run PyExc World Tick TraceEvent Reply :=
  Session.runCommand stripEnv .pageEnd twoRowsServed.ending.state printingAnswers

theorem driveJob_dots_twoRows :
    (∃ batches : List (Nat × Bytes), requests twoRowsLog =
      .waitReady :: .pageBegin twoRows.options.request :: (batches.map linesCall ++ [.pageEnd])) ∧
    ∃ p image inputs earlier sheet blank,
      PrinterInput.parse
        (lineTo p (openedBridge.trace ++ twoRowsServed.trace ++ twoRowsPrinted.trace)).bytes =
          some inputs ∧
      paperOf inputs = earlier ++ sheet ++ blank ∧ Shows image sheet ∧ Blank blank := by
  obtain ⟨batches, requested, -, prints⟩ :=
    driveJob_dots stripEnv stripEnv_usable (calmJob stripEnv) [twoRows] none 0 twoRows twoRowsLog
      List.mem_cons_self ⟨_, List.mem_of_getElem? (i := 9) rfl⟩
  have asked : .waitReady :: .pageBegin twoRows.options.request :: batches.map linesCall =
      (requests twoRowsLog).dropLast := by
    rw [requested]
    exact List.dropLast_concat.symm
  have orderly : ∀ event ∈ openedBridge.trace ++ twoRowsServed.trace ++ twoRowsPrinted.trace,
      Orderly event := by
    decide +kernel
  obtain ⟨past, value, before, unread, ran⟩ :=
    @Run.exists_of_hasReturned _ _ _ _ _ openedBridge (by decide +kernel)
  obtain ⟨sends, value', sent, unsent, served⟩ :=
    @Run.exists_of_hasReturned _ _ _ _ _ twoRowsServed (by decide +kernel)
  obtain ⟨trace, result, after, unused, ended⟩ :=
    @exists_of_isAnswered twoRowsPrinted (by decide +kernel)
  rw [ran, served, ended] at orderly ⊢
  have answered : acknowledge stripEnv
      (.waitReady :: .pageBegin twoRows.options.request :: batches.map linesCall) before
      twoRowsAnswers = ⟨sends, .returned () sent unsent⟩ := by
    rw [asked, ← served, twoRowsServed, ran]
    rfl
  have printed : Session.runCommand stripEnv .pageEnd sent printingAnswers =
      ⟨trace, .returned (.ok result) after unused⟩ := by
    rw [← ended, twoRowsPrinted, served]
    rfl
  obtain ⟨p, -, image, inputs, earlier, sheet, blank, -, -, -, parsed, paper, shows, blanks⟩ :=
    prints freshWorld _ _ _ _ past sends trace before sent after unread unsent unused result
      freshWorld_usable ran answered printed orderly
  exact ⟨⟨batches, requested⟩, p, image, inputs, earlier, sheet, blank, parsed, paper, shows,
    blanks⟩

end Phomemo
