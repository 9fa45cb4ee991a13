import Phomemo.Incidents
import Phomemo.Printer

/-!
# Stopping a transfer

A transfer that is cancelled, or stopped by an open lid, completes the band in progress with
white.  What was sent until then is read as whole commands, whatever chunk the stop falls into.
-/

namespace Phomemo

open Async Coroutine

/-! ## One write -/

/-- The client a printer can write to now. -/
def Writable (w : World) (p : PrinterId) (client : Client) : Prop :=
  (w.printers p).transport.client = some client ∧ (w.printers p).transport.connected = true

/-- Every way a write ends. -/
theorem BleTransport.ensures_write {rely : TraceEvent → Prop}
    {post : Post PyExc World TraceEvent Unit} {w : World} {past : List TraceEvent}
    {p : PrinterId} {data : Bytes}
    (unconnected : (w.printers p).transport.client = none →
      post.raised (.runtimeError "Not connected") w past)
    (lost : (w.printers p).transport.client.isSome → (w.printers p).transport.connected = false →
      ∀ text, post.raised (.connectionError text) w past)
    (oversize : (w.printers p).transport.effectiveChunkBytes < data.length →
      ∀ text, post.raised (.valueError text) w past)
    (sent : ∀ client, Writable w p client →
      (data.length : Int) ≤ (w.printers p).transport.effectiveChunkBytes →
      rely (.wrote p client.address data) →
      post.waiting w (past ++ [.wrote p client.address data]) ∧
      ∀ answer, (∀ event ∈ w.awakening answer, rely event) →
        post.returned () (w.awaken answer)
          (past ++ [.wrote p client.address data] ++ w.awakening answer) ∧
        (rely (.writeFailed p) → ∀ text, post.raised (.connectionError text)
          ((w.awaken answer).setConnected p false)
          (past ++ [.wrote p client.address data] ++ w.awakening answer ++ [.writeFailed p]))) :
    Ensures rely (BleTransport.write p data) post w past := by
  apply Ensures.read_bind
  dsimp only
  cases linked : (w.printers p).transport.client with
  | none => exact Ensures.raise (unconnected linked)
  | some client =>
      apply Ensures.ite
      · intro down
        exact Ensures.raise (lost (by simp [linked]) (by simpa using down) _)
      · intro connected
        apply Ensures.ite
        · intro tooLong
          exact Ensures.raise (oversize tooLong _)
        · intro fits
          apply Ensures.emit_bind
          intro relied
          obtain ⟨waits, answers⟩ := sent client ⟨linked, by simpa using connected⟩
            (not_lt.mp fits) relied
          apply ensures_tick_bind waits
          intro answer relied
          cases failed : answer.bleakError with
          | none => exact Ensures.pure (answers answer relied).1
          | some text =>
              apply Ensures.modify_bind
              apply Ensures.emit_bind
              intro reliedFailure
              exact Ensures.raise ((answers answer relied).2 reliedFailure _)

/-! ## What was written -/

/-- The pieces written, in order. -/
def written (trace : List TraceEvent) : List Bytes :=
  trace.filterMap fun event =>
    match event with
    | .wrote _ _ data => some data
    | _ => none

/-- These bytes were written so far, in pieces of at most `chunk`. -/
structure Sent (chunk : Int) (past : List TraceEvent) (bytes : Bytes) : Prop where
  bytes_eq : (written past).flatten = bytes
  pieces : ∀ piece ∈ written past, (piece.length : Int) ≤ chunk

theorem written_append (past later : List TraceEvent) :
    written (past ++ later) = written past ++ written later := by
  simp [written]

theorem written_awakening (w : World) (answer : Tick) : written (w.awakening answer) = [] := by
  apply List.filterMap_eq_nil_iff.mpr
  intro event member
  cases World.awakening_events answer event member <;> rfl

theorem Sent.quiet {chunk : Int} {past later : List TraceEvent} {bytes : Bytes}
    (sent : Sent chunk past bytes) (silent : written later = []) :
    Sent chunk (past ++ later) bytes := by
  have same : written (past ++ later) = written past := by
    rw [written_append, silent, List.append_nil]
  exact ⟨by rw [same, sent.bytes_eq], by rw [same]; exact sent.pieces⟩

theorem Sent.wrote {chunk : Int} {past : List TraceEvent} {bytes data : Bytes}
    (sent : Sent chunk past bytes) (p : PrinterId) (address : String)
    (size : (data.length : Int) ≤ chunk) :
    Sent chunk (past ++ [.wrote p address data]) (bytes ++ data) := by
  have pieces : written (past ++ [.wrote p address data]) = written past ++ [data] :=
    written_append _ _
  constructor
  · rw [pieces]
    simp [sent.bytes_eq]
  · rw [pieces]
    intro piece member
    rcases List.mem_append.mp member with earlier | last
    · exact sent.pieces piece earlier
    · obtain rfl := List.mem_singleton.mp last
      exact size

/-- The chunk size a transfer started with is in force as long as there is a client. -/
def Steady (p : PrinterId) (chunk : Int) (w : World) : Prop :=
  (w.printers p).transport.client = none ∨ (w.printers p).transport.effectiveChunkBytes = chunk

theorem Steady.awaken {p : PrinterId} {chunk : Int} {w : World} (steady : Steady p chunk w)
    (answer : Tick) : Steady p chunk (w.awaken answer) := by
  have sagged := (World.awaited_awaken (w := w) answer).transport p
  rcases sagged.client with ⟨client, same⟩ | gone
  · rcases steady with none | eq
    · exact .inl (client.trans none)
    · exact .inr (same.trans eq)
  · exact .inl gone

/-! ## Completing a band -/

section Pieces

variable {rely : TraceEvent → Prop} {p : PrinterId} {chunk : Int}

/-- All the bytes are written, or the transfer ends with an exception that is no abort. -/
theorem ensures_writePieces {w : World} {past : List TraceEvent} {sent : Bytes}
    (size : Nat) (size_pos : 0 < size) (fuel : Nat) (data : Bytes) (enough : data.length ≤ fuel)
    (steady : Steady p chunk w)
    (sized : (w.printers p).transport.client = none ∨ (size : Int) = chunk)
    (soFar : Sent chunk past sent) :
    Ensures rely (Printer.writePieces p size fuel data)
      ⟨fun _ _ past => Sent chunk past (sent ++ data),
        fun error _ _ => ∀ reason, error ≠ .printAborted reason,
        fun _ _ => True⟩ w past := by
  induction fuel generalizing data w past sent with
  | zero =>
      obtain rfl := List.eq_nil_of_length_eq_zero (Nat.le_zero.mp enough)
      apply Ensures.pure
      simpa using soFar
  | succ fuel ih =>
      cases data with
      | nil =>
          apply Ensures.pure
          simpa using soFar
      | cons byte rest =>
          apply Ensures.bind
          apply BleTransport.ensures_write
          · exact fun _ _ => nofun
          · exact fun _ _ _ _ => nofun
          · exact fun _ _ _ => nofun
          · rintro client ⟨linked, -⟩ fits _
            have pieceSize : (size : Int) = chunk := by
              rcases sized with none | eq
              · simp [linked] at none
              · exact eq
            have piece : (((byte :: rest).take size).length : Int) ≤ chunk := by
              rw [List.length_take]
              omega
            refine ⟨trivial, fun answer _ => ⟨?_, fun _ _ _ => nofun⟩⟩
            have now := (soFar.wrote p client.address piece).quiet (written_awakening w answer)
            have whole : sent ++ byte :: rest =
                sent ++ (byte :: rest).take size ++ (byte :: rest).drop size := by
              rw [List.append_assoc, List.take_append_drop]
            rw [whole]
            apply ih _ _ (steady.awaken answer) (.inr pieceSize) now
            rw [List.length_drop]
            simp only [List.length_cons] at enough ⊢
            omega

theorem ensures_padBand {w : World} {past : List TraceEvent} {sent stream : Bytes}
    {bands : List Band} {offset : Nat} (chunk_pos : 0 < chunk) (steady : Steady p chunk w)
    (soFar : Sent chunk past sent) :
    Ensures rely (Printer.padBand p stream offset bands)
      ⟨fun _ _ past => Sent chunk past (sent ++ Printer.filler stream offset bands),
        fun error _ _ => ∀ reason, error ≠ .printAborted reason,
        fun _ _ => True⟩ w past := by
  apply Ensures.read_bind
  rcases steady with none | eq
  · cases rest : Printer.filler stream offset bands with
    | nil =>
        apply Ensures.pure
        simpa [rest] using soFar
    | cons byte others =>
        simp only
        apply Ensures.bind
        apply BleTransport.ensures_write
        · exact fun _ _ => nofun
        · exact fun _ _ _ _ => nofun
        · exact fun _ _ _ => nofun
        · rintro client ⟨linked, -⟩
          simp [linked] at none
  · apply ensures_writePieces _ (by omega) _ _ le_rfl (.inr eq) (.inr _) soFar
    omega

end Pieces

/-! ## The loop -/

/-- A progress callback: it pushes events and leaves every printer as it is. -/
def Reports (callback : Py Unit) : Prop :=
  ∀ w script, (∀ event ∈ (callback w script).trace, ∃ pushed, event = .pushed pushed) ∧
    (callback w script).ending.state.printers = w.printers

theorem reports_pure : Reports (pure ()) :=
  fun _ _ => ⟨fun _ member => absurd member List.not_mem_nil, rfl⟩

/-- What a callback leaves, whether it returned or raised. -/
theorem Reports.ensures {callback : Py Unit} (reports : Reports callback)
    {rely : TraceEvent → Prop} {chunk : Int} {p : PrinterId} {w : World}
    {past : List TraceEvent} {sent : Bytes} (steady : Steady p chunk w)
    (soFar : Sent chunk past sent) :
    Ensures rely callback
      ⟨fun _ w past => Steady p chunk w ∧ Sent chunk past sent,
        fun _ w past => Steady p chunk w ∧ Sent chunk past sent,
        fun _ _ => True⟩ w past := by
  intro script _
  obtain ⟨pushes, same⟩ := reports w script
  have silent : written (callback w script).trace = [] := by
    apply List.filterMap_eq_nil_iff.mpr
    intro event member
    obtain ⟨pushed, rfl⟩ := pushes event member
    rfl
  have later := soFar.quiet silent
  unfold Run.Meets
  cases ending : (callback w script).ending with
  | returned value final rest =>
      rw [ending] at same
      change final.printers = w.printers at same
      exact ⟨by rw [Steady, same]; exact steady, later⟩
  | raised error final rest =>
      rw [ending] at same
      change final.printers = w.printers at same
      exact ⟨by rw [Steady, same]; exact steady, later⟩
  | waiting final => trivial

/-- A callback's exception is logged and ignored. -/
theorem Reports.ensures_logged {callback : Py Unit} (reports : Reports callback)
    {rely : TraceEvent → Prop} {chunk : Int} {p : PrinterId} {w : World}
    {past : List TraceEvent} {sent : Bytes} (steady : Steady p chunk w)
    (soFar : Sent chunk past sent) :
    Ensures rely (handle callback fun _ => pure ())
      ⟨fun _ w past => Steady p chunk w ∧ Sent chunk past sent, fun _ _ _ => False,
        fun _ _ => True⟩ w past := by
  apply Ensures.handle
  apply (reports.ensures steady soFar).mono
  · exact fun _ _ _ => id
  · exact fun _ w past kept => Ensures.pure kept
  · exact fun _ _ => id

theorem Steady.setRowsSent {p : PrinterId} {chunk : Int} {w : World} (steady : Steady p chunk w)
    (rows : Nat) : Steady p chunk (w.setRowsSent p rows) := by
  unfold Steady World.setRowsSent
  rw [World.setPrinter_printers, if_pos rfl]
  exact steady

/-- What a stopped transfer has sent: whole chunks, then what completes the band in progress. -/
def Stopped (chunk : Int) (job : Printer.Job) (past : List TraceEvent) : Prop :=
  ∃ count : Nat, count * chunk.toNat < Printer.tailStart job.stream job.bands ∧
    count * chunk.toNat < job.stream.length ∧
    Sent chunk past (job.stream.take (count * chunk.toNat) ++
      Printer.filler job.stream (count * chunk.toNat) job.bands)

/-- The loop of a transfer: `sent` chunks are out, or all of the stream. -/
structure Sending (p : PrinterId) (chunk : Int) (stream : Bytes) (progress : Nat × Nat) (w : World)
    (past : List TraceEvent) : Prop where
  steady : Steady p chunk w
  sent : Sent chunk past (stream.take progress.1)
  offset : progress.1 = progress.2 * chunk.toNat ∨ stream.length ≤ progress.1

section Loop

variable {rely : TraceEvent → Prop} {p : PrinterId} {chunk : Int} {job : Printer.Job} {w : World}
  {past : List TraceEvent} {sent : Nat}

/-- A stop between two chunks. -/
theorem ensures_stop {α : Type} {post : Post PyExc World TraceEvent α} (chunk_pos : 0 < chunk)
    (steady : Steady p chunk w)
    (soFar : Sent chunk past (job.stream.take (sent * chunk.toNat)))
    (before : sent * chunk.toNat < Printer.tailStart job.stream job.bands)
    (more : sent * chunk.toNat < job.stream.length) (reason : AbortReason)
    (stopped : ∀ w past, Stopped chunk job past → post.raised (.printAborted reason) w past)
    (failed : ∀ error w past, (∀ reason, error ≠ .printAborted reason) →
      post.raised error w past)
    (waits : ∀ w past, post.waiting w past) :
    Ensures rely
      (Printer.padBand p job.stream (sent * chunk.toNat) job.bands >>= fun _ =>
        raise (.printAborted reason)) post w past := by
  apply Ensures.seq (ensures_padBand chunk_pos steady soFar)
  · intro _ final past padded
    exact Ensures.raise (stopped final past ⟨sent, before, more, padded⟩)
  · exact fun error w past other => failed error w past other
  · exact fun w past _ => waits w past

/-- The next chunk. -/
theorem ensures_nextChunk {α : Type} {post : Post PyExc World TraceEvent α}
    {next : Unit → Py α} (steady : Steady p chunk w)
    (soFar : Sent chunk past (job.stream.take (sent * chunk.toNat)))
    (sized : 0 < chunk) (more : sent * chunk.toNat < job.stream.length)
    (rest : ∀ w past, Sending p chunk job.stream
        (sent * chunk.toNat + ((job.stream.drop (sent * chunk.toNat)).take chunk.toNat).length,
          sent + 1) w past →
      Ensures rely (next ()) post w past)
    (failed : ∀ error w past, (∀ reason, error ≠ .printAborted reason) →
      post.raised error w past)
    (waits : ∀ w past, post.waiting w past) :
    Ensures rely
      (BleTransport.write p ((job.stream.drop (sent * chunk.toNat)).take chunk.toNat) >>= next)
      post w past := by
  apply Ensures.bind
  apply BleTransport.ensures_write
  · exact fun _ => failed _ _ _ nofun
  · exact fun _ _ _ => failed _ _ _ nofun
  · exact fun _ _ => failed _ _ _ nofun
  · rintro client - - -
    refine ⟨waits _ _, fun answer _ => ⟨?_, fun _ _ => failed _ _ _ nofun⟩⟩
    apply rest
    set offset := sent * chunk.toNat with offset_eq
    set piece := (job.stream.drop offset).take chunk.toNat with piece_eq
    have piece_length : piece.length = min chunk.toNat (job.stream.length - offset) := by
      rw [piece_eq, List.length_take, List.length_drop]
    have size : (piece.length : Int) ≤ chunk := by omega
    have now := (soFar.wrote p client.address size).quiet (written_awakening w answer)
    rw [take_append_piece] at now
    refine ⟨steady.awaken answer, now, ?_⟩
    rw [piece_length, Nat.succ_mul, ← offset_eq]
    omega

end Loop

/-- An abort leaves whole chunks and the completed band; nothing is said of other ends. -/
def stopPost (chunk : Int) (job : Printer.Job) : Post PyExc World TraceEvent Unit where
  returned := fun _ _ _ => True
  raised := fun error _ past => ∀ reason, error = .printAborted reason → Stopped chunk job past
  waiting := fun _ _ => True

theorem ensures_transfer {rely : TraceEvent → Prop} {p : PrinterId} {job : Printer.Job}
    {abort : World → Bool} {slot : Nat} {fraction : ℚ} {onProgress : Nat → Nat → Py Unit}
    (reports : ∀ sent total, Reports (onProgress sent total)) {w : World}
    (chunk_pos : 0 < (w.printers p).transport.effectiveChunkBytes) :
    Ensures rely (Printer.transfer p job abort slot fraction onProgress)
      (stopPost (w.printers p).transport.effectiveChunkBytes job) w [] := by
  apply Ensures.read_bind
  dsimp only
  generalize chunk_eq : (w.printers p).transport.effectiveChunkBytes = chunk at chunk_pos ⊢
  apply Ensures.ite
  · intro zero
    omega
  · intro _
    apply Ensures.iterate (Sending p chunk job.stream) (fun _ _ _ _ => trivial)
    · rintro ⟨offset, sent⟩ w past ⟨steady, soFar, multiple⟩
      dsimp only at soFar multiple ⊢
      apply Ensures.ite
      · intro more
        obtain rfl : offset = sent * chunk.toNat := by omega
        apply Ensures.read_bind
        apply Ensures.ite
        · rintro ⟨-, before⟩
          exact ensures_stop chunk_pos steady soFar before more .cancelled
            (fun _ _ stopped _ _ => stopped)
            (fun error _ _ other reason same => absurd same (other reason)) fun _ _ => trivial
        · intro _
          apply Ensures.ite
          · rintro ⟨-, before⟩
            exact ensures_stop chunk_pos steady soFar before more .lidOpened
              (fun _ _ stopped _ _ => stopped)
              (fun error _ _ other reason same => absurd same (other reason)) fun _ _ => trivial
          · intro _
            apply Ensures.ite
            · intro _
              exact Ensures.raise nofun
            · intro _
              apply ensures_nextChunk steady soFar chunk_pos more
              · intro w past sending
                apply Ensures.modify_bind
                apply Ensures.seq
                  ((reports _ _).ensures_logged (sending.steady.setRowsSent _) sending.sent)
                · rintro _ w past ⟨steady, soFar⟩
                  exact Ensures.pure ⟨steady, soFar, sending.offset⟩
                · exact fun _ _ _ => False.elim
                · exact fun _ _ => id
              · exact fun error _ _ other reason same => absurd same (other reason)
              · exact fun _ _ => trivial
      · intro _
        exact Ensures.pure trivial
    · refine ⟨.inr chunk_eq, ⟨rfl, nofun⟩, .inl ?_⟩
      simp

/-! ## Where a stop lands -/

/-- Raster bytes of the stream that stand before an offset. -/
def dataBefore (offset : Nat) (bands : List Band) : Nat :=
  (bands.map fun band => min offset band.dataEnd - band.dataStart).sum

/-- The bands a stop leaves on the printer: `printed` is a run of the blocks from the first one
on, the last of them completed with white from the raster byte at `kept` on. -/
structure Printed (width : Nat) (blocks printed : List Block) (kept : Nat) : Prop where
  rows : printed.map Block.rows <+: blocks.map Block.rows
  whole : printed.dropLast <+: blocks
  sized : ∀ block ∈ printed, block.Sized width
  data : ∃ white, printed.flatMap Block.data =
    (blocks.flatMap Block.data).take kept ++ List.replicate white 0

theorem Printed.nil (width : Nat) (blocks : List Block) : Printed width blocks [] 0 where
  rows := List.nil_prefix
  whole := List.nil_prefix
  sized := by simp
  data := ⟨0, rfl⟩

/-- The band in progress: its data up to `kept`, then white. -/
theorem Printed.partial {width : Nat} (block : Block) (blocks : List Block)
    (sized : block.Sized width) {kept : Nat} (inside : kept ≤ block.data.length) :
    Printed width (block :: blocks)
      [⟨block.rows, block.data.take kept ++ List.replicate (block.data.length - kept) 0⟩] kept where
  rows := by simp
  whole := List.nil_prefix
  sized := by
    intro other member
    obtain rfl := List.mem_singleton.mp member
    unfold Block.Sized at sized ⊢
    rw [← sized]
    simp only [List.length_append, List.length_take, List.length_replicate]
    omega
  data := by
    refine ⟨block.data.length - kept, ?_⟩
    simp [List.take_append_of_le_length inside]

theorem Printed.cons {width : Nat} {block : Block} {blocks printed : List Block} {kept : Nat}
    (sized : block.Sized width) (rest : Printed width blocks printed kept) :
    Printed width (block :: blocks) (block :: printed) (block.data.length + kept) where
  rows := by simpa using rest.rows
  whole := by
    cases printed with
    | nil => exact List.nil_prefix
    | cons next later =>
        rw [List.dropLast_cons_cons, List.cons_prefix_cons]
        exact ⟨rfl, rest.whole⟩
  sized := by
    intro other member
    rcases List.mem_cons.mp member with rfl | later
    · exact sized
    · exact rest.sized other later
  data := by
    obtain ⟨white, data⟩ := rest.data
    refine ⟨white, ?_⟩
    rw [List.flatMap_cons, List.flatMap_cons, data, List.take_append]
    simp [List.append_assoc]

theorem filler_nil_of_le {stream : Bytes} {offset start : Nat} (blocks : List Block)
    (before : offset ≤ start) : Printer.filler stream offset (bandMap start blocks) = [] := by
  have none : (bandMap start blocks).find?
      (fun band => band.headerStart < offset ∧ offset < band.dataEnd) = none := by
    induction blocks generalizing start with
    | nil => rfl
    | cons block blocks ih =>
        rw [bandMap, List.find?_cons_of_neg (by simp; omega)]
        exact ih (by omega)
  unfold Printer.filler
  rw [none]

theorem dataBefore_of_le {offset start : Nat} (blocks : List Block) (before : offset ≤ start) :
    dataBefore offset (bandMap start blocks) = 0 := by
  induction blocks generalizing start with
  | nil => rfl
  | cons block blocks ih =>
      have rest := @ih (start + 8 + block.data.length) (by omega)
      unfold dataBefore at rest ⊢
      rw [bandMap, List.map_cons, List.sum_cons, rest]
      dsimp only
      omega

theorem dataBefore_cons (offset : Nat) (band : Band) (bands : List Band) :
    dataBefore offset (band :: bands) =
      min offset band.dataEnd - band.dataStart + dataBefore offset bands := rfl

theorem take_append_slice (stream : Bytes) (offset stop : Nat) :
    stream.take offset ++ slice stream offset stop = stream.take (max offset stop) := by
  unfold slice
  rw [← List.take_add]
  congr 1
  omega

/-- A stop inside a band: the rest of its header follows, then white up to its end. -/
theorem filler_inside {stream : Bytes} {offset start : Nat} {block : Block} (blocks : List Block)
    (started : start < offset) (inside : offset < start + 8 + block.data.length) :
    stream.take offset ++ Printer.filler stream offset (bandMap start (block :: blocks)) =
      stream.take (max offset (start + 8)) ++
        List.replicate (block.data.length - (offset - (start + 8))) 0 := by
  have found : (bandMap start (block :: blocks)).find?
      (fun band => band.headerStart < offset ∧ offset < band.dataEnd) =
      some ⟨start, start + 8, start + 8 + block.data.length, block.rows⟩ := by
    rw [bandMap, List.find?_cons_of_pos]
    simp [started, inside]
  unfold Printer.filler
  rw [found]
  dsimp only
  rw [← List.append_assoc, take_append_slice]
  congr 2
  omega

/-- A band the stop lies behind has nothing to complete. -/
theorem filler_after {stream : Bytes} {offset start : Nat} {block : Block} (blocks : List Block)
    (passed : start + 8 + block.data.length ≤ offset) :
    Printer.filler stream offset (bandMap start (block :: blocks)) =
      Printer.filler stream offset (bandMap (start + 8 + block.data.length) blocks) := by
  unfold Printer.filler
  rw [bandMap, List.find?_cons_of_neg]
  simp only [decide_eq_true_eq]
  omega

/-- A stop among the bands leaves whole bands, the last one completed with white. -/
theorem stop_among_bands (width : Nat) (mode : ScaleMode) (before after : Bytes)
    (blocks : List Block) (sized : ∀ block ∈ blocks, block.Sized width) {offset : Nat}
    (started : before.length ≤ offset)
    (inside : offset < before.length + (blocks.flatMap (Block.bytes width mode)).length) :
    ∃ printed, Printed width blocks printed
        (dataBefore offset (bandMap before.length blocks)) ∧
      (before ++ blocks.flatMap (Block.bytes width mode) ++ after).take offset ++
          Printer.filler (before ++ blocks.flatMap (Block.bytes width mode) ++ after) offset
            (bandMap before.length blocks) =
        before ++ printed.flatMap (Block.bytes width mode) := by
  induction blocks generalizing before with
  | nil => simp at inside; omega
  | cons block blocks ih =>
      have blockSized := sized block List.mem_cons_self
      by_cases atStart : offset = before.length
      · refine ⟨[], ?_, ?_⟩
        · rw [dataBefore_of_le _ (Nat.le_of_eq atStart)]
          exact Printed.nil width _
        · rw [filler_nil_of_le _ (Nat.le_of_eq atStart), atStart]
          simp [List.append_assoc]
      · by_cases within : offset < before.length + 8 + block.data.length
        · set kept := offset - (before.length + 8) with kept_eq
          have raster : dataBefore offset (bandMap before.length (block :: blocks)) = kept := by
            rw [bandMap, dataBefore_cons, dataBefore_of_le _ (Nat.le_of_lt within)]
            dsimp only
            omega
          have inBlock : kept ≤ block.data.length := by omega
          rw [raster]
          refine ⟨_, Printed.partial block blocks blockSized inBlock, ?_⟩
          rw [filler_inside blocks (by omega) within, ← kept_eq]
          have header : (block.header width mode).take (max offset (before.length + 8) -
              before.length) = block.header width mode := by
            apply List.take_of_length_le
            rw [Block.header_length]
            omega
          have start : before.take (max offset (before.length + 8)) = before := by
            apply List.take_of_length_le
            omega
          have rest : max offset (before.length + 8) - before.length - 8 = kept := by omega
          have later : kept - block.data.length = 0 := by omega
          simp only [List.flatMap_cons, List.flatMap_nil, Block.bytes, List.append_assoc,
            List.take_append, Block.header_length, start, rest, later, List.take_zero,
            List.append_nil, header, Nat.zero_sub]
          rfl
        · have bytes_length : (before ++ block.bytes width mode).length =
              before.length + 8 + block.data.length := by
            rw [List.length_append, Block.bytes_length, Nat.add_assoc]
          obtain ⟨printed, left, sent⟩ := ih (before ++ block.bytes width mode)
            (fun other member => sized other (List.mem_cons_of_mem _ member))
            (by omega) (by
              rw [bytes_length]
              rw [List.flatMap_cons, List.length_append, Block.bytes_length] at inside
              omega)
          rw [bytes_length] at left sent
          refine ⟨block :: printed, ?_, ?_⟩
          · have raster : dataBefore offset (bandMap before.length (block :: blocks)) =
                block.data.length +
                  dataBefore offset (bandMap (before.length + 8 + block.data.length) blocks) := by
              rw [bandMap, dataBefore_cons]
              dsimp only
              omega
            rw [raster]
            exact Printed.cons blockSized left
          · rw [filler_after blocks (by omega)]
            simpa only [List.flatMap_cons, List.append_assoc] using sent

/-! ## The whole transfer -/

theorem densityCommands_short (profile : PrinterProfile) (density : Option Density) :
    (prologueBytes profile density).length ≤ 6 := by
  unfold prologueBytes densityCommands
  cases density.bind profile.densityValue <;> simp [PrinterCommand.bytes]

theorem feedCommands_short (feedLines : Int) :
    ((feedCommands feedLines).flatMap PrinterCommand.bytes).length ≤ 3 := by
  unfold feedCommands
  split <;> simp [PrinterCommand.bytes]

theorem bandMap_bounds {start : Nat} (blocks : List Block) :
    ∀ band ∈ bandMap start blocks, start ≤ band.headerStart ∧ start ≤ band.dataEnd := by
  induction blocks generalizing start with
  | nil => simp [bandMap]
  | cons block blocks ih =>
      intro band member
      rcases List.mem_cons.mp member with rfl | later
      · dsimp only
        omega
      · have bounds := ih band later
        omega

/-- At the edge of a band there is nothing to complete. -/
theorem filler_boundary {stream : Bytes} {offset start : Nat} (blocks : List Block)
    (edge : ∃ band ∈ bandMap start blocks, offset = band.headerStart ∨ offset = band.dataEnd) :
    Printer.filler stream offset (bandMap start blocks) = [] := by
  induction blocks generalizing start with
  | nil => simp [bandMap] at edge
  | cons block blocks ih =>
      by_cases passed : start + 8 + block.data.length ≤ offset
      · rw [filler_after blocks passed]
        obtain ⟨band, member, meets⟩ := edge
        rcases List.mem_cons.mp member with rfl | later
        · apply filler_nil_of_le
          dsimp only at meets
          omega
        · exact ih ⟨band, later, meets⟩
      · apply filler_nil_of_le
        obtain ⟨band, member, meets⟩ := edge
        rcases List.mem_cons.mp member with rfl | later
        · dsimp only at meets
          omega
        · have bounds := bandMap_bounds blocks band later
          omega

/-- The bands a stop leaves are of the sizes of the page's bands. -/
theorem Printed.commands_legal {profile : PrinterProfile} {rows kept : Nat}
    (fits : profile.BandsFit rows) {bitmap : Bytes} {blocks printed : List Block}
    (cut : Cut profile rows bitmap blocks)
    (left : Printed profile.widthBytes.toNat blocks printed kept) (mode : ScaleMode) :
    ∀ command ∈ printed.map (Block.command profile.widthBytes.toNat mode), command.Legal := by
  intro command member
  obtain ⟨block, present, rfl⟩ := List.mem_map.mp member
  have rowsFrom := left.rows.subset (List.mem_map_of_mem (f := Block.rows) present)
  obtain ⟨original, member, rows_eq⟩ := List.mem_map.mp rowsFrom
  obtain ⟨width_lt, rows_lt⟩ := cut.rows_lt fits member
  rw [rows_eq] at rows_lt
  exact Block.command_legal (by omega) rows_lt (left.sized block present)

/-- Whole commands: the prologue and the bands a stop leaves. -/
theorem parse_printed {profile : PrinterProfile} {rows kept : Nat} (fits : profile.BandsFit rows)
    (density : Option Density) (mode : ScaleMode) {bitmap : Bytes} {blocks printed : List Block}
    (cut : Cut profile rows bitmap blocks)
    (left : Printed profile.widthBytes.toNat blocks printed kept) :
    PrinterCommand.parse (prologueBytes profile density ++
        printed.flatMap (Block.bytes profile.widthBytes.toNat mode)) =
      some (.reset :: densityCommands profile density ++
        printed.map (Block.command profile.widthBytes.toNat mode)) := by
  rw [prologueBytes, ← Block.flatMap_command_bytes, ← List.flatMap_append]
  apply PrinterCommand.parse_flatMap_bytes
  intro command member
  rcases List.mem_append.mp member with start | raster
  · exact densityCommands_legal profile density command start
  · exact left.commands_legal fits cut mode command raster

/-- The stop offset of an aborted transfer is 0 or lies behind the prologue. -/
theorem stop_bounds {profile : PrinterProfile} {density : Option Density} {feedLines : Int}
    {width : Nat} {mode : ScaleMode} {blocks : List Block} {chunk : Int} {count : Nat}
    (chunk_ge : 20 ≤ chunk)
    (before : count * chunk.toNat < Printer.tailStart
      (prologueBytes profile density ++ blocks.flatMap (Block.bytes width mode) ++
        (feedCommands feedLines).flatMap PrinterCommand.bytes)
      (bandMap (prologueBytes profile density).length blocks)) :
    count * chunk.toNat = 0 ∨
      (prologueBytes profile density).length ≤ count * chunk.toNat ∧
      count * chunk.toNat < (prologueBytes profile density).length +
        (blocks.flatMap (Block.bytes width mode)).length := by
  rcases Nat.eq_zero_or_pos count with rfl | started
  · exact .inl (Nat.zero_mul _)
  · right
    have far : chunk.toNat ≤ count * chunk.toNat := Nat.le_mul_of_pos_left _ started
    have prologueShort := densityCommands_short profile density
    have feedShort := feedCommands_short feedLines
    refine ⟨by omega, ?_⟩
    cases blocks with
    | nil =>
        simp only [Printer.tailStart, bandMap, List.getLast?_nil, List.flatMap_nil,
          List.length_append, List.length_nil] at before
        omega
    | cons block blocks =>
        obtain ⟨band, last, ends⟩ :=
          bandMap_getLast (prologueBytes profile density).length block blocks width mode
        simp only [Printer.tailStart, last] at before
        omega

/-- A transfer that is aborted leaves whole commands: nothing at all, or the prologue and bands
of the bitmap, the one in progress completed with white. -/
theorem transfer_stops_whole (p : PrinterId) (w : World) (script : List Tick) (bitmap : Bytes)
    (height : Nat) (size : bitmap.length = (w.printers p).profile.widthBytes.toNat * height)
    (density : Option Density) (mode : ScaleMode) (feedLines : Int)
    (stream : Bytes) (bands : List Band)
    (built : buildRasterStream (w.printers p).profile bitmap height density mode feedLines =
      some (.ok (stream, bands)))
    (chunk_ge : 20 ≤ (w.printers p).transport.effectiveChunkBytes)
    (abort : World → Bool) (slot : Nat) (fraction : ℚ) (onProgress : Nat → Nat → Py Unit)
    (reports : ∀ sent total, Reports (onProgress sent total))
    (trace : List TraceEvent) (reason : AbortReason) (final : World) (rest : List Tick)
    (stopped : Printer.transfer p ⟨stream, bands, height⟩ abort slot fraction onProgress w script =
      ⟨trace, .raised (.printAborted reason) final rest⟩) :
    ∃ blocks,
      PrinterCommand.parse stream =
        some (.reset :: densityCommands (w.printers p).profile density ++
          blocks.map (Block.command (w.printers p).profile.widthBytes.toNat mode) ++
          feedCommands feedLines) ∧
      blocks.flatMap Block.data = bitmap ∧
      (∀ piece ∈ written trace,
        (piece.length : Int) ≤ (w.printers p).transport.effectiveChunkBytes) ∧
      ∃ count stop padding,
        stop = count * (w.printers p).transport.effectiveChunkBytes.toNat ∧
        stop < stream.length ∧
        (written trace).flatten = stream.take stop ++ padding ∧
        ((∃ band ∈ bands, stop = band.headerStart ∨ stop = band.dataEnd) → padding = []) ∧
        (stop = 0 ∧ padding = [] ∨
          ∃ printed,
            PrinterCommand.parse (stream.take stop ++ padding) =
              some (.reset :: densityCommands (w.printers p).profile density ++
                printed.map (Block.command (w.printers p).profile.widthBytes.toNat mode)) ∧
            Printed (w.printers p).profile.widthBytes.toNat blocks printed
              (dataBefore stop bands)) := by
  have ensures : Ensures (fun _ => True)
      (Printer.transfer p ⟨stream, bands, height⟩ abort slot fraction onProgress)
      (stopPost (w.printers p).transport.effectiveChunkBytes ⟨stream, bands, height⟩) w [] :=
    ensures_transfer reports (by omega)
  have meets := ensures script fun _ _ => trivial
  rw [stopped] at meets
  obtain ⟨count, before, more, sent⟩ := meets reason rfl
  obtain ⟨byte, fits⟩ := buildRasterStream_eq_ok_iff.mp ⟨stream, bands, built⟩
  obtain ⟨blocks, cut, assembled⟩ := buildRasterStream_eq byte fits size mode feedLines
  obtain ⟨rfl, rfl⟩ : stream = _ ∧ bands = _ := by
    rw [assembled] at built
    have same := Except.ok.inj (Option.some.inj built)
    exact ⟨(congrArg Prod.fst same).symm, (congrArg Prod.snd same).symm⟩
  refine ⟨blocks, parse_assembled fits cut density mode feedLines, cut.data_eq, sent.pieces, count,
    _, _, rfl, more, sent.bytes_eq, filler_boundary blocks, ?_⟩
  rcases stop_bounds chunk_ge before with zero | ⟨started, inside⟩
  · left
    rw [zero]
    exact ⟨rfl, filler_nil_of_le blocks (Nat.zero_le _)⟩
  · right
    obtain ⟨printed, left, sentNow⟩ := stop_among_bands _ mode _
      ((feedCommands feedLines).flatMap PrinterCommand.bytes) blocks cut.sized started inside
    refine ⟨printed, ?_, left⟩
    rw [sentNow]
    exact parse_printed fits density mode cut left

/-- A connected strip printer with the smallest chunk. -/
def linkedStrip : Printer :=
  { Printer.new strip (some (.text "S")) with
    transport :=
      { profile := strip, client := some ⟨0, "S"⟩, connected := true, effectiveChunkBytes := 20 } }

/-- Forty black rows as one band, with the trailing feed. -/
def stripStream : Bytes :=
  [0x1b, 0x40, 0x1d, 0x76, 0x30, 0, 1, 0, 40, 0] ++ List.replicate 40 0xff ++ [0x1b, 0x64, 20]

/-- A cancel that is seen after the first chunk, in the middle of the band. -/
theorem transfer_stops_whole_mid_band :
    ∃ trace final,
      Printer.transfer 0 ⟨stripStream, [⟨2, 10, 50, 40⟩], 40⟩ (fun w => w.session.abort) 0 (1 / 4)
          (fun _ _ => pure ()) { printers := fun _ => linkedStrip }
          [{ incidents := [.abort] }, {}, {}] =
        ⟨trace, .raised (.printAborted .cancelled) final []⟩ ∧
      ∃ blocks,
        PrinterCommand.parse stripStream =
          some (.reset :: densityCommands strip none ++
            blocks.map (Block.command strip.widthBytes.toNat .normal) ++ feedCommands 20) ∧
        blocks.flatMap Block.data = List.replicate 40 0xff ∧
        (∀ piece ∈ written trace, (piece.length : Int) ≤ 20) ∧
        ∃ count stop padding,
          stop = count * (20 : Int).toNat ∧
          stop < stripStream.length ∧
          (written trace).flatten = stripStream.take stop ++ padding ∧
          ((∃ band ∈ [(⟨2, 10, 50, 40⟩ : Band)], stop = band.headerStart ∨ stop = band.dataEnd) →
            padding = []) ∧
          (stop = 0 ∧ padding = [] ∨
            ∃ printed,
              PrinterCommand.parse (stripStream.take stop ++ padding) =
                some (.reset :: densityCommands strip none ++
                  printed.map (Block.command strip.widthBytes.toNat .normal)) ∧
              Printed strip.widthBytes.toNat blocks printed
                (dataBefore stop [⟨2, 10, 50, 40⟩])) :=
  ⟨_, _, rfl, transfer_stops_whole 0 { printers := fun _ => linkedStrip } _
    (List.replicate 40 0xff) 40 rfl none .normal 20 stripStream _ rfl (le_refl (20 : Int)) _ 0 _ _
    (fun _ _ => reports_pure) _ .cancelled _ _ rfl⟩

end Phomemo
