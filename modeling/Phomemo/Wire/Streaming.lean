import Phomemo.Wire.Pages

/-!
# Transfers on the line

While a page is streamed, its line holds a conversation and a first part of the page.  A transfer
that returns has sent the whole page; one that was stopped has completed the band; a write that
fails takes the link down.  Only a sheet that runs out leaves the line up in the middle of a page,
and then the printer is the one the bridge holds.
-/

namespace Phomemo

open Async Coroutine

/-- A page is being streamed to the bridge's printer. -/
structure Streaming (p : PrinterId) (chunk : Int) (calls : List PrintCall) (call : PrintCall)
    (inputs : List PrinterInput) (sent : Bytes) (w : World) (past : List TraceEvent) : Prop where
  apart : Apart p w past
  held : w.bridge.printer = some p
  steady : Steady p chunk w
  line : (lineTo p past).Sending calls call inputs sent

/-- The sheet ran out: the line of the bridge's printer may be in the middle of a page. -/
structure Torn (p : PrinterId) (w : World) (past : List TraceEvent) : Prop where
  apart : Apart p w past
  held : w.bridge.printer = some p
  onPage : (lineTo p past).OnPage

theorem Torn.waits {p : PrinterId} {w : World} {past : List TraceEvent} (torn : Torn p w past) :
    OnTrack w past :=
  torn.apart.waits torn.onPage

theorem Steady.lowered {p : PrinterId} {chunk : Int} {w after : World}
    (steady : Steady p chunk w) (lowered : w.Lowered after) : Steady p chunk after := by
  have transport := lowered.transport p
  rcases transport.client with client | gone
  · rcases steady with none | eq
    · exact .inl (client.trans none)
    · rcases transport.chunk with same | ⟨gone, -⟩
      · exact .inr (same.trans eq)
      · exact .inl gone
  · exact .inl gone

namespace Streaming

variable {rely : TraceEvent → Prop} {p : PrinterId} {chunk : Int} {calls : List PrintCall}
  {call : PrintCall} {inputs : List PrinterInput} {sent : Bytes} {w : World}
  {past : List TraceEvent}

theorem move {after : World} (streaming : Streaming p chunk calls call inputs sent w past)
    (lowered : w.Lowered after) (printer : after.bridge.printer = w.bridge.printer) :
    Streaming p chunk calls call inputs sent after past where
  apart := (Apart.stable p).lowered w after past lowered streaming.apart
  held := printer.trans streaming.held
  steady := streaming.steady.lowered lowered
  line := streaming.line

theorem append {later : List TraceEvent}
    (streaming : Streaming p chunk calls call inputs sent w past)
    (silent : ∀ event ∈ later, event.Silent) :
    Streaming p chunk calls call inputs sent w (past ++ later) where
  apart := (Apart.stable p).append silent streaming.apart
  held := streaming.held
  steady := streaming.steady
  line := by
    rw [lineTo_append p past silent]
    exact streaming.line

theorem idle : IdleStable rely (Streaming p chunk calls call inputs sent) where
  awaken := by
    intro w past answer streaming _
    apply Streaming.append
    · exact streaming.move (World.lowered_awaken answer) (World.awaited_awaken answer).printer
    · exact fun event member =>
        TraceEvent.silent_await (World.awakening_events answer event member)
  quiet := fun _ _ _ quiet streaming => streaming.move quiet.lowered quiet.printer
  event := fun _ _ _ wire streaming _ => streaming.append fun _ member =>
    List.mem_singleton.mp member ▸ TraceEvent.silent_wire wire

theorem wrote (streaming : Streaming p chunk calls call inputs sent w past) (address : String)
    (data : Bytes) :
    Streaming p chunk calls call inputs (sent ++ data) w (past ++ [.wrote p address data]) where
  apart := streaming.apart.wrote address data
  held := streaming.held
  steady := streaming.steady
  line := by
    rw [lineTo_wrote]
    exact streaming.line.wrote data

/-- All of a part of the page was sent. -/
theorem finish (streaming : Streaming p chunk calls call inputs sent w past)
    (page : PageBytes call sent) : InSync w past := by
  obtain ⟨commands, part, legal, rfl⟩ := page
  exact streaming.apart.inSync fun _ => streaming.line.finish part legal

/-- All of the page was sent. -/
theorem delivered (streaming : Streaming p chunk calls call inputs sent w past)
    (whole : WholeBytes call sent) : DeliveredPage p call.bitmap call.height w past := by
  refine ⟨streaming.finish whole.part, call, rfl, rfl, ?_⟩
  obtain ⟨commands, whole, legal, rfl⟩ := whole
  exact streaming.line.delivers whole legal

/-- A first part of what the page can be is on the line. -/
theorem torn (streaming : Streaming p chunk calls call inputs sent w past) {whole : Bytes}
    (page : PageBytes call whole) (first : sent <+: whole) : Torn p w past := by
  obtain ⟨commands, part, -, rfl⟩ := page
  exact ⟨streaming.apart, streaming.held, calls, call, inputs, sent, commands, streaming.line, part,
    first⟩

theorem waits (streaming : Streaming p chunk calls call inputs sent w past) {whole : Bytes}
    (page : PageBytes call whole) (first : sent <+: whole) : OnTrack w past :=
  (streaming.torn page first).waits

/-- A piece of the page: it is sent, or the link is down. -/
theorem ensures_write {post : Post PyExc World TraceEvent Unit} {data : Bytes}
    (streaming : Streaming p chunk calls call inputs sent w past)
    (fits : (data.length : Int) ≤ chunk)
    (returned : ∀ w past, Streaming p chunk calls call inputs (sent ++ data) w past →
      post.returned () w past)
    (raised : ∀ error w past, InSync w past → post.raised error w past)
    (waiting : ∀ w past, Streaming p chunk calls call inputs (sent ++ data) w past →
      post.waiting w past) :
    Ensures rely (BleTransport.write p data) post w past := by
  have down : ∀ {w past}, Apart p w past → (w.printers p).transport.connected = false →
      InSync w past := by
    intro w past apart lowered
    apply apart.down
    rw [World.isConnected, Transport.isConnected, lowered, Bool.false_and]
  have gone : (w.printers p).transport.client = none → InSync w past := by
    intro absent
    apply streaming.apart.down
    rw [World.isConnected, Transport.isConnected, absent]
    exact Bool.and_false _
  apply BleTransport.ensures_write
  · exact fun absent => raised _ w past (gone absent)
  · exact fun _ lowered _ => raised _ w past (down streaming.apart lowered)
  · intro tooLong _
    rcases streaming.steady with absent | size
    · exact raised _ w past (gone absent)
    · omega
  · intro client writable _ _
    have sending := streaming.wrote client.address data
    refine ⟨waiting _ _ sending, fun answer relied => ?_⟩
    have awake := (@idle rely _ _ _ _ _ _).awaken _ _ answer sending relied
    refine ⟨returned _ _ awake, fun _ _ => raised _ _ _ ?_⟩
    apply down
    · apply (Apart.stable p).silent
      · trivial
      · exact (Apart.stable p).lowered _ _ _ (World.lowered_setConnected p) awake.apart
    · rw [World.setConnected, World.setTransport_printers, if_pos rfl]

/-- The bytes that complete a part of the page are sent, or the link is down. -/
theorem ensures_writePieces {size : Nat} (size_eq : (size : Int) = chunk) (size_pos : 0 < size)
    (fuel : Nat) (data : Bytes) (enough : data.length ≤ fuel) {whole : Bytes}
    (page : PageBytes call whole) (first : sent ++ data <+: whole)
    (streaming : Streaming p chunk calls call inputs sent w past) :
    Ensures rely (Printer.writePieces p size fuel data)
      ⟨fun _ => Streaming p chunk calls call inputs (sent ++ data), fun _ => InSync, OnTrack⟩
      w past := by
  induction fuel generalizing data sent w past with
  | zero =>
      obtain rfl := List.eq_nil_of_length_eq_zero (Nat.le_zero.mp enough)
      apply Ensures.pure
      simpa using streaming
  | succ fuel ih =>
      cases data with
      | nil =>
          apply Ensures.pure
          simpa using streaming
      | cons byte rest =>
          have split : sent ++ byte :: rest =
              sent ++ (byte :: rest).take size ++ (byte :: rest).drop size := by
            rw [List.append_assoc, List.take_append_drop]
          apply Ensures.bind
          apply streaming.ensures_write
          · rw [List.length_take]
            omega
          · intro w past streaming
            rw [split] at first ⊢
            apply ih _ _ first streaming
            rw [List.length_drop]
            simp only [List.length_cons] at enough ⊢
            omega
          · exact fun _ _ _ => id
          · intro w past streaming
            rw [split] at first
            exact streaming.waits page ((List.prefix_append _ _).trans first)

/-- A stop completes the band in progress, before it is raised. -/
theorem ensures_stop {α : Type} {job : Printer.Job} {offset : Nat} {reason : AbortReason}
    {returned : α → World → List TraceEvent → Prop}
    (streaming : Streaming p chunk calls call inputs (job.stream.take offset) w past)
    (page : PageBytes call
      (job.stream.take offset ++ Printer.filler job.stream offset job.bands)) :
    Ensures rely
      (Printer.padBand p job.stream offset job.bands >>= fun _ =>
        raise (.printAborted reason) : Py α)
      ⟨returned, fun _ => InSync, OnTrack⟩ w past := by
  have room := (streaming.apart.usable p).chunk
  have restarted : Streaming p (w.printers p).transport.effectiveChunkBytes calls call inputs
      (job.stream.take offset) w past :=
    { streaming with steady := .inr rfl }
  apply Ensures.bind
  apply Ensures.read_bind
  apply (restarted.ensures_writePieces (Int.toNat_of_nonneg (by omega)) (by omega) _ _ le_rfl page
    List.prefix_rfl).mono
  · exact fun _ _ _ streaming => Ensures.raise (streaming.finish page)
  · exact fun _ _ _ => id
  · exact fun _ _ => id

end Streaming

/-- How the sending of a page ends. -/
abbrev Transfers (α : Type) (p : PrinterId) (bitmap : Bytes) (height : Nat) :
    Post PyExc World TraceEvent α where
  returned := fun _ => DeliveredPage p bitmap height
  raised := fun error w past =>
    InSync w past ∨ (∃ text, error = .sheetRanOut text) ∧ Torn p w past
  waiting := OnTrack

section Transfer

variable {rely : TraceEvent → Prop} {p : PrinterId} {chunk : Int} {calls : List PrintCall}
  {call : PrintCall} {inputs : List PrinterInput} {w : World} {past : List TraceEvent}
  {profile : PrinterProfile} {level : Option Density} {blocks : List Block} {job : Printer.Job}

/-- The loop of a transfer: so many chunks are out, or all of the stream. -/
structure PageLoop (p : PrinterId) (chunk : Int) (calls : List PrintCall) (call : PrintCall)
    (inputs : List PrinterInput) (stream : Bytes) (progress : Nat × Nat) (w : World)
    (past : List TraceEvent) : Prop
    extends Streaming p chunk calls call inputs (stream.take progress.1) w past where
  offset : progress.1 = progress.2 * chunk.toNat ∨ stream.length ≤ progress.1

/-- The next chunk goes out and its rows are reported. -/
theorem PageJob.ensures_nextChunk (paged : PageJob call profile level blocks job)
    {onProgress : Nat → Nat → Py Unit}
    (reports : ∀ sent total (inv : World → List TraceEvent → Prop), IdleStable rely inv →
      Keeps rely inv (onProgress sent total)) {sent total width : Nat}
    (streaming : Streaming p chunk calls call inputs (job.stream.take (sent * chunk.toNat)) w past)
    (chunk_pos : 0 < chunk) :
    Ensures rely (do
        let piece := (job.stream.drop (sent * chunk.toNat)).take chunk.toNat
        BleTransport.write p piece
        let offset := sent * chunk.toNat + piece.length
        let sent := sent + 1
        Coroutine.modify fun w => w.setRowsSent p (Printer.rowsBefore offset job.bands width)
        handle (onProgress sent total) fun _ => pure ()
        return .inl (offset, sent))
      ((Transfers Unit p call.bitmap call.height).round
        (PageLoop p chunk calls call inputs job.stream))
      w past := by
  have whole := paged.whole
  dsimp only
  set piece := (job.stream.drop (sent * chunk.toNat)).take chunk.toNat with piece_eq
  have piece_length :
      piece.length = min chunk.toNat (job.stream.length - sent * chunk.toNat) := by
    rw [piece_eq, List.length_take, List.length_drop]
  have onwards : job.stream.take (sent * chunk.toNat) ++ piece =
      job.stream.take (sent * chunk.toNat + piece.length) := take_append_piece job.stream _ _
  have next : sent * chunk.toNat + piece.length = (sent + 1) * chunk.toNat ∨
      job.stream.length ≤ sent * chunk.toNat + piece.length := by
    rw [piece_length, Nat.succ_mul]
    omega
  have waits : ∀ {offset : Nat} {w : World} {past : List TraceEvent},
      Streaming p chunk calls call inputs (job.stream.take offset) w past → OnTrack w past :=
    fun streaming => streaming.waits whole.part (List.take_prefix _ _)
  apply Ensures.bind
  apply streaming.ensures_write (by omega)
  · intro w past streaming
    rw [onwards] at streaming
    apply Ensures.modify_bind
    apply Ensures.bind
    apply Ensures.handle
    apply (reports _ _ _ Streaming.idle).ensures
      (streaming.move (World.quiet_setRowsSent p _).lowered rfl)
    · exact fun _ _ _ streaming => Ensures.pure ⟨streaming, next⟩
    · exact fun _ _ _ streaming _ => Ensures.pure (Ensures.pure ⟨streaming, next⟩)
    · exact fun _ _ => waits
  · exact fun _ _ _ => .inl
  · intro w past streaming
    rw [onwards] at streaming
    exact waits streaming

/-- A transfer of a page on its line. -/
theorem PageJob.ensures_transfer (paged : PageJob call profile level blocks job)
    {abort : World → Bool} {slot : Nat} {fraction : ℚ} {onProgress : Nat → Nat → Py Unit}
    (reports : ∀ sent total (inv : World → List TraceEvent → Prop), IdleStable rely inv →
      Keeps rely inv (onProgress sent total))
    (streaming : Streaming p chunk calls call inputs [] w past)
    (chunk_eq : (w.printers p).transport.effectiveChunkBytes = chunk) :
    Ensures rely (Printer.transfer p job abort slot fraction onProgress)
      (Transfers Unit p call.bitmap call.height) w past := by
  have chunk_ge : 20 ≤ chunk := chunk_eq ▸ (streaming.apart.usable p).chunk
  have whole := paged.whole
  apply Ensures.read_bind
  dsimp only
  rw [chunk_eq]
  apply Ensures.ite
  · intro zero
    omega
  · intro _
    apply Ensures.iterate (PageLoop p chunk calls call inputs job.stream)
    · exact fun _ _ _ sending => sending.waits whole.part (List.take_prefix _ _)
    · rintro ⟨offset, sent⟩ w past ⟨streaming, multiple⟩
      dsimp only at streaming multiple ⊢
      apply Ensures.ite
      · intro more
        obtain rfl : offset = sent * chunk.toNat := by omega
        have stops : ∀ reason, sent * chunk.toNat < Printer.tailStart job.stream job.bands →
            Ensures rely
              (Printer.padBand p job.stream (sent * chunk.toNat) job.bands >>= fun _ =>
                raise (.printAborted reason))
              ((Transfers Unit p call.bitmap call.height).round
                (PageLoop p chunk calls call inputs job.stream))
              w past := by
          intro reason before
          apply (streaming.ensures_stop (paged.stop chunk_ge before)).mono
          · exact fun _ _ _ => id
          · exact fun _ _ _ => .inl
          · exact fun _ _ => id
        apply Ensures.read_bind
        apply Ensures.ite
        · exact fun stopped => stops .cancelled stopped.2
        · intro _
          apply Ensures.ite
          · exact fun stopped => stops .lidOpened stopped.2
          · intro _
            apply Ensures.ite
            · exact fun _ => Ensures.raise
                (.inr ⟨⟨_, rfl⟩, streaming.torn whole.part (List.take_prefix _ _)⟩)
            · intro _
              exact paged.ensures_nextChunk reports streaming (by omega)
      · intro done
        apply Ensures.pure
        rw [List.take_of_length_le (not_lt.mp done)] at streaming
        exact streaming.delivered whole
    · exact ⟨by simpa using streaming, .inl (by simp)⟩

end Transfer

end Phomemo
