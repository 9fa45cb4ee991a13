import Phomemo.Async.Loop
import Phomemo.RowCount
import Phomemo.Transfer

/-!
# A transfer, chunk by chunk

A transfer that nothing stops sends its pieces one after the other and reports each.  The events
are looked at between two pieces, so a transfer is that plain run up to the first boundary at which
one of them applies, and what the stop does from there.
-/

namespace Phomemo

open Async Coroutine

namespace Printer

/-- The number of chunks a stream of that length is sent in. -/
def chunkCount (length : Nat) (chunk : Int) : Nat := (-(-(length : Int) / chunk)).toNat

/-- The bytes of one chunk. -/
def pieceAt (stream : Bytes) (size index : Nat) : Bytes := (stream.drop (index * size)).take size

/-- The bytes that have been sent after so many chunks. -/
def offsetAt (stream : Bytes) (size sent : Nat) : Nat := min (sent * size) stream.length

/-- Send one chunk, update the row count and report it. -/
def sendPiece (p : PrinterId) (job : Job) (chunk : Int) (widthBytes : Nat)
    (onProgress : Nat → Nat → Py Unit) (index : Nat) : Py Unit := do
  BleTransport.write p (pieceAt job.stream chunk.toNat index)
  modify fun w =>
    w.setRowsSent p (rowsBefore (offsetAt job.stream chunk.toNat (index + 1)) job.bands widthBytes)
  handle (onProgress (index + 1) (chunkCount job.stream.length chunk)) fun _ => pure ()

/-- Send `count` chunks from the one at `first` on, as when nothing stops a transfer. -/
def sendPieces (p : PrinterId) (job : Job) (chunk : Int) (widthBytes : Nat)
    (onProgress : Nat → Nat → Py Unit) (first count : Nat) : Py Unit :=
  forEach (List.range' first count) (sendPiece p job chunk widthBytes onProgress)

/-- Complete the band in progress and end the transfer. -/
def abortWith (p : PrinterId) (job : Job) (offset : Nat) (reason : AbortReason) : Py Unit := do
  padBand p job.stream offset job.bands
  raise (.printAborted reason)

/-- What a transfer does instead of sending the chunk at an offset. -/
def stopAt (p : PrinterId) (job : Job) (abort : World → Bool) (slot : Nat) (fraction : ℚ)
    (offset : Nat) (w : World) : Option (Py Unit) :=
  let tail := tailStart job.stream job.bands
  let unsent : ℚ := job.height - (w.printers p).rowsSent
  if abort w ∧ offset < tail then some (abortWith p job offset .cancelled)
  else if lidOpenSet w p slot ∧ offset < tail then some (abortWith p job offset .lidOpened)
  else if absentSet w p slot ∧ job.height ≠ 0 ∧ fraction < unsent / job.height then
    some (raise (.sheetRanOut "paper ran out"))
  else none

end Printer

/-- A callback that does not wait: it may push events and raise, and leaves the printers as they
are. -/
def Immediate (callback : Py Unit) : Prop :=
  ∀ w, ∃ events final, (∀ event ∈ events, ∃ pushed, event = TraceEvent.pushed pushed) ∧
    final.printers = w.printers ∧
    ∀ script, callback w script = ⟨events, .returned () final script⟩ ∨
      ∃ error, callback w script = ⟨events, .raised error final script⟩

/-- A logged callback returns. -/
theorem Immediate.logged {callback : Py Unit} (immediate : Immediate callback) (w : World)
    (script : List Tick) :
    ∃ events final, (∀ event ∈ events, ∃ pushed, event = TraceEvent.pushed pushed) ∧
      final.printers = w.printers ∧
      handle callback (fun _ => pure ()) w script = ⟨events, .returned () final script⟩ := by
  obtain ⟨events, final, pushes, same, runs⟩ := immediate w
  refine ⟨events, final, pushes, same, ?_⟩
  unfold Coroutine.handle
  obtain returned | ⟨error, raised⟩ := runs script
  · rw [returned]
  · rw [raised]
    change Run.mk (events ++ []) _ = _
    rw [List.append_nil]
    rfl

/-- What a logged callback leaves. -/
theorem Immediate.ensures {callback : Py Unit} (immediate : Immediate callback)
    {rely : TraceEvent → Prop} {post : Post PyExc World TraceEvent Unit} {w : World}
    {past : List TraceEvent}
    (returned : ∀ events final, (∀ event ∈ events, ∃ pushed, event = TraceEvent.pushed pushed) →
      final.printers = w.printers → post.returned () final (past ++ events)) :
    Ensures rely (handle callback fun _ => pure ()) post w past := by
  intro script _
  obtain ⟨events, final, pushes, same, logged⟩ := immediate.logged w script
  rw [logged]
  exact returned events final pushes same

section Counts

variable {chunk : Int} {length : Nat}

theorem lt_chunkCount_iff (chunk_pos : 0 < chunk) (index : Nat) :
    index < Printer.chunkCount length chunk ↔ index * chunk.toNat < length := by
  unfold Printer.chunkCount
  obtain ⟨size, rfl⟩ := Int.eq_ofNat_of_zero_le chunk_pos.le
  have before : (index : Int) < -(-(length : Int) / size) ↔ (index : Int) * size < length := by
    rw [lt_neg, ← Int.not_le, Int.le_ediv_iff_mul_le chunk_pos, Int.neg_mul]
    omega
  have cast : ((index * size : Nat) : Int) = (index : Int) * size := Nat.cast_mul index size
  rw [Int.toNat_natCast]
  omega

/-- Past the last chunk everything has been sent. -/
theorem offsetAt_chunkCount (stream : Bytes) (chunk_pos : 0 < chunk) :
    Printer.offsetAt stream chunk.toNat (Printer.chunkCount stream.length chunk) =
      stream.length := by
  have last := @lt_chunkCount_iff chunk stream.length chunk_pos
    (Printer.chunkCount stream.length chunk)
  unfold Printer.offsetAt
  omega

/-- Before that the offset is a whole number of chunks. -/
theorem offsetAt_of_lt (stream : Bytes) {size sent : Nat} (before : sent * size < stream.length) :
    Printer.offsetAt stream size sent = sent * size :=
  Nat.min_eq_left before.le

/-- The next offset is behind the next chunk, which may be a short one. -/
theorem offsetAt_succ (stream : Bytes) (size sent : Nat) :
    Printer.offsetAt stream size sent +
        ((stream.drop (Printer.offsetAt stream size sent)).take size).length =
      Printer.offsetAt stream size (sent + 1) := by
  unfold Printer.offsetAt
  rw [List.length_take, List.length_drop, Nat.succ_mul]
  omega

end Counts

/-! ## Rounds -/

theorem uses_tick : Uses (fun _ => 1) tick := by
  apply Uses.bind Uses.suspend
  intro answer
  apply Uses.bind Uses.read
  intro w
  apply Uses.bind (Uses.modify _)
  intro _
  apply Uses.bind (Uses.emitAll _)
  exact fun _ => Uses.pure rfl

/-- A write that returned has waited. -/
theorem BleTransport.uses_write (p : PrinterId) (data : Bytes) :
    Uses (fun _ => 1) (BleTransport.write p data) := by
  apply Uses.bind Uses.read
  intro w
  dsimp only
  cases (w.printers p).transport.client with
  | none => exact Uses.raise _
  | some client =>
      refine Uses.ite (Uses.raise _) (Uses.ite (Uses.raise _) ?_)
      apply Uses.bind (Uses.emit _)
      intro _
      apply Uses.bind uses_tick
      intro answer
      cases answer.bleakError with
      | none => exact Uses.pure rfl
      | some text =>
          apply Uses.bind (Uses.modify _)
          intro _
          apply Uses.bind (Uses.emit _)
          exact fun _ => Uses.raise _

theorem uses_writePieces (p : PrinterId) (size fuel : Nat) (data : Bytes) :
    Uses (fun _ => 0) (Printer.writePieces p size fuel data) := by
  induction fuel generalizing data with
  | zero => exact Uses.pure rfl
  | succ fuel ih =>
      cases data with
      | nil => exact Uses.pure rfl
      | cons byte rest =>
          apply Uses.bind ((BleTransport.uses_write p _).mono fun _ => Nat.zero_le _)
          exact fun _ => ih _

theorem uses_padBand (p : PrinterId) (stream : Bytes) (offset : Nat) (bands : List Band) :
    Uses (fun _ => 0) (Printer.padBand p stream offset bands) := by
  apply Uses.bind Uses.read
  exact fun w => uses_writePieces p _ _ _

theorem Immediate.uses {callback : Py Unit} (immediate : Immediate callback) :
    Uses (fun _ => 0) (handle callback fun _ => pure ()) := by
  intro w script
  obtain ⟨events, final, -, -, logged⟩ := immediate.logged w script
  rw [logged]
  exact le_rfl

section Rounds

variable {p : PrinterId} {job : Printer.Job} {abort : World → Bool} {slot : Nat} {fraction : ℚ}
  {onProgress : Nat → Nat → Py Unit} {chunk : Int} {widthBytes : Nat}

/-- One round of the loop of a transfer. -/
def Printer.transferRound (p : PrinterId) (job : Printer.Job) (abort : World → Bool) (slot : Nat)
    (fraction : ℚ) (onProgress : Nat → Nat → Py Unit) (chunk : Int) (widthBytes : Nat)
    (progress : Nat × Nat) : Py (Nat × Nat ⊕ Unit) :=
  if progress.1 < job.stream.length then do
    let w ← read
    match Printer.stopAt p job abort slot fraction progress.1 w with
    | some stop =>
        stop
        return .inr ()
    | none =>
        let piece := (job.stream.drop progress.1).take chunk.toNat
        BleTransport.write p piece
        modify fun w =>
          w.setRowsSent p (Printer.rowsBefore (progress.1 + piece.length) job.bands widthBytes)
        handle (onProgress (progress.2 + 1) (Printer.chunkCount job.stream.length chunk))
          fun _ => pure ()
        return .inl (progress.1 + piece.length, progress.2 + 1)
  else
    return .inr ()

/-- The loop of a transfer is made of these rounds. -/
theorem Printer.transfer_eq (w : World) (script : List Tick)
    (nonzero : (w.printers p).transport.effectiveChunkBytes ≠ 0) :
    Printer.transfer p job abort slot fraction onProgress w script =
      iterate (Printer.transferRound p job abort slot fraction onProgress
        (w.printers p).transport.effectiveChunkBytes
        (w.printers p).profile.widthBytes.toNat) (0, 0) w script := by
  unfold Printer.transfer
  rw [Coroutine.read_bind]
  dsimp only
  rw [if_neg nonzero]
  refine congrFun (congrFun (congrArg (fun body => iterate body (0, 0)) ?_) w) script
  funext ⟨offset, sent⟩ w script
  unfold Printer.transferRound
  dsimp only
  split
  · rw [Coroutine.read_bind, Coroutine.read_bind]
    unfold Printer.stopAt
    dsimp only
    split
    · dsimp only [Printer.abortWith]
      rw [Coroutine.bind_assoc]
      rfl
    · split
      · dsimp only [Printer.abortWith]
        rw [Coroutine.bind_assoc]
        rfl
      · split
        · rfl
        · rfl
  · rfl

theorem Printer.uses_stopAt {offset : Nat} {w : World} {stop : Py Unit}
    (stops : Printer.stopAt p job abort slot fraction offset w = some stop) :
    Uses (fun _ => 1) stop := by
  have padded : ∀ reason, Uses (fun _ => 1) (Printer.abortWith p job offset reason) := by
    intro reason
    apply Uses.bind (uses_padBand p job.stream offset job.bands)
    exact fun _ => Uses.raise _
  unfold Printer.stopAt at stops
  dsimp only at stops
  split at stops
  · obtain rfl := Option.some.inj stops
    exact padded _
  · split at stops
    · obtain rfl := Option.some.inj stops
      exact padded _
    · split at stops
      · obtain rfl := Option.some.inj stops
        exact Uses.raise _
      · cases stops

/-- A round that goes on has written a chunk. -/
theorem Printer.transferRound_advances (immediate : ∀ sent total, Immediate (onProgress sent total))
    (progress : Nat × Nat) :
    Advances (Printer.transferRound p job abort slot fraction onProgress chunk widthBytes
      progress) := by
  unfold Printer.transferRound
  refine Uses.ite ?_ (Uses.pure rfl)
  apply Uses.bind Uses.read
  intro w
  cases stops : Printer.stopAt p job abort slot fraction progress.1 w with
  | some stop =>
      apply Uses.bind (Printer.uses_stopAt stops)
      exact fun _ => Uses.pure rfl
  | none =>
      apply Uses.bind (BleTransport.uses_write p _)
      intro _
      apply Uses.bind (Uses.modify _)
      intro _
      apply Uses.bind (immediate _ _).uses
      exact fun _ => Uses.pure rfl

/-- The loop of a transfer from the boundary after so many chunks on. -/
def Printer.transferFrom (p : PrinterId) (job : Printer.Job) (abort : World → Bool) (slot : Nat)
    (fraction : ℚ) (onProgress : Nat → Nat → Py Unit) (chunk : Int) (widthBytes sent : Nat) :
    Py Unit :=
  iterate (Printer.transferRound p job abort slot fraction onProgress chunk widthBytes)
    (Printer.offsetAt job.stream chunk.toNat sent, sent)

/-- At the end of the stream the loop is over. -/
theorem Printer.transferFrom_end (chunk_pos : 0 < chunk)
    (immediate : ∀ sent total, Immediate (onProgress sent total)) :
    Printer.transferFrom p job abort slot fraction onProgress chunk widthBytes
      (Printer.chunkCount job.stream.length chunk) = pure () := by
  unfold Printer.transferFrom
  rw [iterate_unfold (Printer.transferRound_advances immediate), offsetAt_chunkCount _ chunk_pos,
    Printer.transferRound, if_neg (lt_irrefl _)]
  rfl

/-- A stop ends the loop. -/
theorem Printer.transferFrom_stop (immediate : ∀ sent total, Immediate (onProgress sent total))
    {sent : Nat} (more : sent * chunk.toNat < job.stream.length) {w : World} {stop : Py Unit}
    (stops : Printer.stopAt p job abort slot fraction (sent * chunk.toNat) w = some stop)
    (script : List Tick) :
    Printer.transferFrom p job abort slot fraction onProgress chunk widthBytes sent w script =
      stop w script := by
  unfold Printer.transferFrom
  rw [iterate_unfold (Printer.transferRound_advances immediate), offsetAt_of_lt _ more,
    Printer.transferRound, if_pos more, Coroutine.bind_assoc, Coroutine.read_bind, stops]
  dsimp only
  rw [Coroutine.bind_assoc]
  change Coroutine.bind stop _ w script = stop w script
  unfold Coroutine.bind
  generalize stop w script = outcome
  obtain ⟨trace, ⟨value, middle, left⟩ | ⟨error, final, left⟩ | ⟨final⟩⟩ := outcome
  · change Run.mk (trace ++ []) _ = _
    rw [List.append_nil]
    rfl
  · rfl
  · rfl

/-- Otherwise the next chunk is sent and the loop goes on. -/
theorem Printer.transferFrom_next (immediate : ∀ sent total, Immediate (onProgress sent total))
    {sent : Nat} (more : sent * chunk.toNat < job.stream.length) {w : World}
    (goes : Printer.stopAt p job abort slot fraction (sent * chunk.toNat) w = none)
    (script : List Tick) :
    Printer.transferFrom p job abort slot fraction onProgress chunk widthBytes sent w script =
      (Printer.sendPiece p job chunk widthBytes onProgress sent >>= fun _ =>
        Printer.transferFrom p job abort slot fraction onProgress chunk widthBytes (sent + 1))
        w script := by
  have advanced := offsetAt_succ job.stream chunk.toNat sent
  rw [offsetAt_of_lt _ more] at advanced
  conv_lhs => unfold Printer.transferFrom
  rw [iterate_unfold (Printer.transferRound_advances immediate), offsetAt_of_lt _ more,
    Printer.transferRound, if_pos more, Coroutine.bind_assoc, Coroutine.read_bind, goes]
  dsimp only
  rw [advanced, Printer.sendPiece]
  simp only [Coroutine.bind_assoc]
  rfl

theorem Printer.sendPieces_succ (first count : Nat) :
    Printer.sendPieces p job chunk widthBytes onProgress first (count + 1) =
      Printer.sendPiece p job chunk widthBytes onProgress first >>= fun _ =>
        Printer.sendPieces p job chunk widthBytes onProgress (first + 1) count := rfl

/-- At no boundary the plain run reaches among the next ones does anything stop the transfer. -/
def Printer.GoesOn (p : PrinterId) (job : Printer.Job) (abort : World → Bool) (slot : Nat)
    (fraction : ℚ) (onProgress : Nat → Nat → Py Unit) (chunk : Int) (widthBytes first count : Nat)
    (w : World) (script : List Tick) : Prop :=
  ∀ sent < count, ∀ past reached rest,
    Printer.sendPieces p job chunk widthBytes onProgress first sent w script =
      ⟨past, .returned () reached rest⟩ →
    Printer.stopAt p job abort slot fraction ((first + sent) * chunk.toNat) reached = none

/-- The first boundary, if it is passed, and those after it. -/
theorem Printer.GoesOn.of_next {first count : Nat} {w : World} {script : List Tick}
    (here : Printer.stopAt p job abort slot fraction (first * chunk.toNat) w = none)
    (later : ∀ past reached rest,
      Printer.sendPiece p job chunk widthBytes onProgress first w script =
        ⟨past, .returned () reached rest⟩ →
      Printer.GoesOn p job abort slot fraction onProgress chunk widthBytes (first + 1) count
        reached rest) :
    Printer.GoesOn p job abort slot fraction onProgress chunk widthBytes first (count + 1) w
      script := by
  intro sent below past reached rest sentSoFar
  cases sent with
  | zero =>
      obtain ⟨rfl, ended⟩ := Run.mk.inj sentSoFar
      obtain ⟨-, rfl, rfl⟩ := Ending.returned.inj ended
      exact here
  | succ sent =>
      rw [Printer.sendPieces_succ] at sentSoFar
      obtain ⟨early, _, middle, left, after, one, others, rfl⟩ :=
        bind_returned_iff.mp sentSoFar
      rw [show first + (sent + 1) = first + 1 + sent by omega]
      exact later early middle left one sent (by omega) after reached rest others

/-- A transfer is the plain run up to the first boundary at which something stops it, and what the
stop does from there; without one it is the plain run. -/
theorem Printer.transferFrom_cases (immediate : ∀ sent total, Immediate (onProgress sent total))
    (chunk_pos : 0 < chunk) (count first : Nat)
    (whole : first + count = Printer.chunkCount job.stream.length chunk) (w : World)
    (script : List Tick) :
    (∃ sent past reached rest stop, sent < count ∧
      Printer.sendPieces p job chunk widthBytes onProgress first sent w script =
        ⟨past, .returned () reached rest⟩ ∧
      Printer.stopAt p job abort slot fraction ((first + sent) * chunk.toNat) reached =
        some stop ∧
      Printer.GoesOn p job abort slot fraction onProgress chunk widthBytes first sent w script ∧
      Printer.transferFrom p job abort slot fraction onProgress chunk widthBytes first w script =
        (stop reached rest).after past) ∨
    (Printer.GoesOn p job abort slot fraction onProgress chunk widthBytes first count w script ∧
      Printer.transferFrom p job abort slot fraction onProgress chunk widthBytes first w script =
        Printer.sendPieces p job chunk widthBytes onProgress first count w script) := by
  induction count generalizing first w script with
  | zero =>
      refine Or.inr ⟨fun _ below => absurd below (Nat.not_lt_zero _), ?_⟩
      obtain rfl : first = Printer.chunkCount job.stream.length chunk := by omega
      rw [Printer.transferFrom_end chunk_pos immediate]
      rfl
  | succ count ih =>
      have more : first * chunk.toNat < job.stream.length :=
        (lt_chunkCount_iff chunk_pos first).mp (by omega)
      cases stops : Printer.stopAt p job abort slot fraction (first * chunk.toNat) w with
      | some stop =>
          refine Or.inl ⟨0, [], w, script, stop, Nat.succ_pos _, rfl, stops,
            fun _ below => absurd below (Nat.not_lt_zero _), ?_⟩
          rw [Printer.transferFrom_stop immediate more stops]
          rfl
      | none =>
          rw [Printer.transferFrom_next immediate more stops, Printer.sendPieces_succ]
          by_cases sends :
            (Printer.sendPiece p job chunk widthBytes onProgress first w script).hasReturned = true
          · obtain ⟨early, _, middle, left, sentOne⟩ := Run.exists_of_hasReturned sends
            rw [bind_eq_of_returned sentOne, bind_eq_of_returned sentOne]
            have goesOn : ∀ {count}, Printer.GoesOn p job abort slot fraction onProgress chunk
                widthBytes (first + 1) count middle left →
                  Printer.GoesOn p job abort slot fraction onProgress chunk widthBytes first
                    (count + 1) w script := by
              intro count goes
              refine Printer.GoesOn.of_next stops fun past reached rest one => ?_
              obtain ⟨-, ended⟩ := Run.mk.inj (sentOne.symm.trans one)
              obtain ⟨-, rfl, rfl⟩ := Ending.returned.inj ended
              exact goes
            obtain ⟨sent, past, reached, rest, stop, below, plain, applies, goes, same⟩ |
              ⟨goes, same⟩ := ih (first + 1) (by omega) middle left
            · refine Or.inl ⟨sent + 1, early ++ past, reached, rest, stop, by omega, ?_, ?_,
                goesOn goes, ?_⟩
              · rw [Printer.sendPieces_succ, bind_eq_of_returned sentOne, plain]
                rfl
              · rw [show first + (sent + 1) = first + 1 + sent by omega]
                exact applies
              · rw [same]
                simp only [Run.after, List.append_assoc]
            · exact Or.inr ⟨goesOn goes, by rw [same]⟩
          · refine Or.inr ⟨?_, bind_congr_of_unreturned sends⟩
            refine Printer.GoesOn.of_next stops fun past reached rest one => ?_
            rw [one] at sends
            exact absurd rfl sends

/-! ## Boundaries -/

/-- A piece that was sent leaves the row count of its end. -/
theorem Printer.sendPiece_rowsSent (immediate : ∀ sent total, Immediate (onProgress sent total))
    {index : Nat} {w reached : World} {script rest : List Tick} {past : List TraceEvent}
    (sent : Printer.sendPiece p job chunk widthBytes onProgress index w script =
      ⟨past, .returned () reached rest⟩) :
    (reached.printers p).rowsSent =
      Printer.rowsBefore (Printer.offsetAt job.stream chunk.toNat (index + 1)) job.bands
        widthBytes := by
  obtain ⟨_, _, middle, left, _, -, sent, -⟩ := bind_returned_iff.mp sent
  obtain ⟨_, _, counted, left', _, moved, sent, -⟩ := bind_returned_iff.mp sent
  obtain ⟨-, ended⟩ := Run.mk.inj moved
  obtain ⟨-, rfl, rfl⟩ := Ending.returned.inj ended
  obtain ⟨events, final, -, same, logged⟩ :=
    (immediate (index + 1) (Printer.chunkCount job.stream.length chunk)).logged
      (middle.setRowsSent p (Printer.rowsBefore
        (Printer.offsetAt job.stream chunk.toNat (index + 1)) job.bands widthBytes)) left
  obtain ⟨-, ended⟩ := Run.mk.inj (logged.symm.trans sent)
  obtain ⟨-, rfl, -⟩ := Ending.returned.inj ended
  rw [same, World.setRowsSent, World.setPrinter_printers, if_pos rfl]

/-- At every boundary the row count is that of the bytes sent. -/
theorem Printer.sendPieces_rowsSent (immediate : ∀ sent total, Immediate (onProgress sent total))
    {first count : Nat} {w reached : World} {script rest : List Tick} {past : List TraceEvent}
    (before : (w.printers p).rowsSent =
      Printer.rowsBefore (Printer.offsetAt job.stream chunk.toNat first) job.bands widthBytes)
    (sent : Printer.sendPieces p job chunk widthBytes onProgress first count w script =
      ⟨past, .returned () reached rest⟩) :
    (reached.printers p).rowsSent =
      Printer.rowsBefore (Printer.offsetAt job.stream chunk.toNat (first + count)) job.bands
        widthBytes := by
  induction count generalizing first w script past with
  | zero =>
      obtain ⟨-, ended⟩ := Run.mk.inj sent
      obtain ⟨-, rfl, -⟩ := Ending.returned.inj ended
      exact before
  | succ count ih =>
      rw [Printer.sendPieces_succ] at sent
      obtain ⟨_, _, middle, left, _, one, others, -⟩ := bind_returned_iff.mp sent
      rw [show first + (count + 1) = first + 1 + count by omega]
      exact ih (Printer.sendPiece_rowsSent immediate one) others

end Rounds

/-- One of the events applies at an offset: an abort or an open lid, or an absent sheet while more
than that share of the rows is unsent. -/
structure Flagged (p : PrinterId) (job : Printer.Job) (abort : World → Bool) (slot : Nat)
    (fraction : ℚ) (widthBytes offset : Nat) (w : World) : Prop where
  raster : offset < Printer.tailStart job.stream job.bands
  event : abort w = true ∨ Printer.lidOpenSet w p slot = true ∨
    Printer.absentSet w p slot = true ∧
      fraction * job.height < job.height - rowsWithin widthBytes job.bands offset

section Flags

variable {width : Nat} {mode : ScaleMode} {blocks : List Block}
  {p : PrinterId} {job : Printer.Job} {abort : World → Bool} {slot : Nat} {fraction : ℚ}
  {offset : Nat} {w : World}

/-- Once the raster is out no row is unsent, so only flagged offsets stop a transfer. -/
theorem stopAt_isSome_iff
    (built : LaidOut width job.height mode job.stream job.bands blocks)
    (height_pos : 1 ≤ job.height) (fraction_nonneg : 0 ≤ fraction)
    (rows : (w.printers p).rowsSent = rowsWithin width job.bands offset) :
    (Printer.stopAt p job abort slot fraction offset w).isSome = true ↔
      Flagged p job abort slot fraction width offset w := by
  have height_rat : (0 : ℚ) < job.height := by exact_mod_cast height_pos
  have short : fraction < (job.height - (w.printers p).rowsSent : ℚ) / job.height ↔
      fraction * job.height < job.height - rowsWithin width job.bands offset := by
    rw [lt_div_iff₀ height_rat, rows]
  have early : fraction * job.height <
      job.height - rowsWithin width job.bands offset →
      offset < Printer.tailStart job.stream job.bands := by
    intro unsent
    by_contra behind
    rw [built.rowsWithin_tail (not_lt.mp behind), sub_self] at unsent
    exact absurd unsent (not_lt.mpr (mul_nonneg fraction_nonneg height_rat.le))
  unfold Printer.stopAt
  dsimp only
  simp only [short]
  constructor
  · intro stops
    split at stops
    · rename_i cancelled
      exact ⟨cancelled.2, Or.inl cancelled.1⟩
    · split at stops
      · rename_i lidOpen
        exact ⟨lidOpen.2, Or.inr (Or.inl lidOpen.1)⟩
      · split at stops
        · rename_i ranOut
          exact ⟨early ranOut.2.2, Or.inr (Or.inr ⟨ranOut.1, ranOut.2.2⟩)⟩
        · cases stops
  · rintro ⟨raster, event⟩
    split
    · rfl
    · rename_i cancelled
      split
      · rfl
      · rename_i lidOpen
        obtain aborted | opened | ⟨absent, unsent⟩ := event
        · exact absurd ⟨aborted, raster⟩ cancelled
        · exact absurd ⟨opened, raster⟩ lidOpen
        · rw [if_pos ⟨absent, by omega, unsent⟩]
          rfl

/-- What stops a transfer: a stop raises once it has completed the band in progress. -/
theorem stopAt_runs {stop : Py Unit}
    (stops : Printer.stopAt p job abort slot fraction offset w = some stop) :
    (∃ reason, stop = Printer.abortWith p job offset reason ∧
        (abort w = true ∨ Printer.lidOpenSet w p slot = true)) ∨
      (stop = raise (.sheetRanOut "paper ran out") ∧
        ¬(abort w = true ∧ offset < Printer.tailStart job.stream job.bands) ∧
        ¬(Printer.lidOpenSet w p slot = true ∧
          offset < Printer.tailStart job.stream job.bands)) := by
  unfold Printer.stopAt at stops
  dsimp only at stops
  split at stops
  · rename_i cancelled
    exact Or.inl ⟨.cancelled, (Option.some.inj stops).symm, Or.inl cancelled.1⟩
  · split at stops
    · rename_i lidOpen
      exact Or.inl ⟨.lidOpened, (Option.some.inj stops).symm, Or.inr lidOpen.1⟩
    · rename_i running closed
      split at stops
      · exact Or.inr ⟨(Option.some.inj stops).symm, running, closed⟩
      · cases stops

end Flags

/-! ## What a transfer writes -/

/-- A write that returned has handed over its bytes. -/
theorem BleTransport.write_written {p : PrinterId} {data : Bytes} {w reached : World}
    {script rest : List Tick} {past : List TraceEvent}
    (returned : BleTransport.write p data w script = ⟨past, .returned () reached rest⟩) :
    written past = [data] := by
  have ensures : Ensures (fun _ => True) (BleTransport.write p data)
      ⟨fun _ _ past => written past = [data], fun _ _ _ => True, fun _ _ => True⟩ w [] := by
    apply BleTransport.ensures_write
    · exact fun _ => trivial
    · exact fun _ _ _ => trivial
    · exact fun _ _ => trivial
    · intro client _ _ _
      refine ⟨trivial, fun answer _ => ⟨?_, fun _ _ => trivial⟩⟩
      change written ([] ++ [.wrote p client.address data] ++ w.awakening answer) = [data]
      rw [written_append, written_awakening, List.append_nil]
      rfl
  have meets := ensures script fun _ _ => trivial
  rw [returned] at meets
  exact meets

section Pieces

variable {p : PrinterId} {job : Printer.Job} {onProgress : Nat → Nat → Py Unit} {chunk : Int}
  {widthBytes : Nat}

theorem Printer.sendPiece_written (immediate : ∀ sent total, Immediate (onProgress sent total))
    {index : Nat} {w reached : World} {script rest : List Tick} {past : List TraceEvent}
    (sent : Printer.sendPiece p job chunk widthBytes onProgress index w script =
      ⟨past, .returned () reached rest⟩) :
    written past = [Printer.pieceAt job.stream chunk.toNat index] := by
  obtain ⟨early, _, middle, left, later, wrote, counting, rfl⟩ := bind_returned_iff.mp sent
  obtain ⟨moving, _, counted, left', events, moved, reporting, rfl⟩ :=
    bind_returned_iff.mp counting
  obtain ⟨rfl, -⟩ := Run.mk.inj moved
  obtain ⟨pushes, final, pushed, -, logged⟩ :=
    (immediate (index + 1) (Printer.chunkCount job.stream.length chunk)).logged counted left'
  obtain ⟨rfl, -⟩ := Run.mk.inj (logged.symm.trans reporting)
  have silent : written pushes = [] := by
    refine List.filterMap_eq_nil_iff.mpr fun event member => ?_
    obtain ⟨_, rfl⟩ := pushed event member
    rfl
  rw [written_append, BleTransport.write_written wrote, List.nil_append, silent, List.append_nil]

theorem Printer.sendPieces_written (immediate : ∀ sent total, Immediate (onProgress sent total))
    {first count : Nat} {w reached : World} {script rest : List Tick} {past : List TraceEvent}
    (sent : Printer.sendPieces p job chunk widthBytes onProgress first count w script =
      ⟨past, .returned () reached rest⟩) :
    written past = (List.range' first count).map (Printer.pieceAt job.stream chunk.toNat) := by
  induction count generalizing first w script past with
  | zero =>
      obtain ⟨rfl, -⟩ := Run.mk.inj sent
      rfl
  | succ count ih =>
      rw [Printer.sendPieces_succ] at sent
      obtain ⟨early, _, middle, left, later, one, others, rfl⟩ := bind_returned_iff.mp sent
      rw [written_append, Printer.sendPiece_written immediate one, ih others]
      rfl

/-- The first pieces are the first bytes of the stream. -/
theorem Printer.pieces_flatten (stream : Bytes) (size count : Nat) :
    ((List.range' 0 count).map (Printer.pieceAt stream size)).flatten =
      stream.take (count * size) := by
  induction count with
  | zero => simp
  | succ count ih =>
      rw [List.range'_1_concat, List.map_append, List.flatten_append, ih, Nat.succ_mul,
        List.take_add]
      simp [Printer.pieceAt]

theorem Printer.pieceAt_length (stream : Bytes) (size index : Nat) :
    (Printer.pieceAt stream size index).length = min size (stream.length - index * size) := by
  rw [Printer.pieceAt, List.length_take, List.length_drop]

theorem Printer.chunkCount_eq_ceil (length : Nat) {chunk : Int} (chunk_pos : 0 < chunk) :
    (Printer.chunkCount length chunk : Int) = ⌈(length : ℚ) / chunk⌉ := by
  obtain ⟨size, rfl⟩ := Int.eq_ofNat_of_zero_le chunk_pos.le
  have ceil : ⌈(length : ℚ) / ((size : Nat) : Int)⌉ = -(-(length : Int) / size) := by
    exact_mod_cast Rat.ceil_intCast_div_natCast (length : Int) size
  have nonneg : 0 ≤ ⌈(length : ℚ) / ((size : Nat) : Int)⌉ := Int.ceil_nonneg (by positivity)
  rw [Printer.chunkCount, ← ceil, Int.toNat_of_nonneg nonneg]

end Pieces

/-! ## When a transfer is stopped -/

/-- What a write may raise. -/
def WriteError : PyExc → Prop
  | .runtimeError _ => True
  | .connectionError _ => True
  | .valueError _ => True
  | _ => False

section Errors

variable {p : PrinterId}

theorem BleTransport.upholds_write (data : Bytes) :
    Upholds (fun _ => True) (fun _ _ => True) WriteError (BleTransport.write p data) := by
  intro w past _
  apply BleTransport.ensures_write
  · exact fun _ => ⟨trivial, trivial⟩
  · exact fun _ _ _ => ⟨trivial, trivial⟩
  · exact fun _ _ => ⟨trivial, trivial⟩
  · exact fun _ _ _ _ => ⟨trivial, fun _ _ => ⟨trivial, fun _ _ => ⟨trivial, trivial⟩⟩⟩

theorem upholds_padBand (stream : Bytes) (offset : Nat) (bands : List Band) :
    Upholds (fun _ => True) (fun _ _ => True) WriteError
      (Printer.padBand p stream offset bands) := by
  have pieces : ∀ (size fuel : Nat) (data : Bytes),
      Upholds (fun _ => True) (fun _ _ => True) WriteError
        (Printer.writePieces p size fuel data) := by
    intro size fuel
    induction fuel with
    | zero => exact fun data => Upholds.pure ()
    | succ fuel ih =>
        intro data
        cases data with
        | nil => exact Upholds.pure ()
        | cons byte rest => exact Upholds.bind (BleTransport.upholds_write _) fun _ => ih _
  apply Upholds.bind Upholds.read
  exact fun w => pieces _ _ _

theorem Immediate.upholds {callback : Py Unit} (immediate : Immediate callback) :
    Upholds (fun _ => True) (fun _ _ => True) WriteError (handle callback fun _ => pure ()) := by
  intro w past _
  exact immediate.ensures fun _ _ _ _ => trivial

theorem upholds_sendPieces {job : Printer.Job} {chunk : Int} {widthBytes : Nat}
    {onProgress : Nat → Nat → Py Unit} (immediate : ∀ sent total, Immediate (onProgress sent total))
    (first count : Nat) :
    Upholds (fun _ => True) (fun _ _ => True) WriteError
      (Printer.sendPieces p job chunk widthBytes onProgress first count) := by
  apply Upholds.forEach
  intro index _
  apply Upholds.bind (BleTransport.upholds_write _)
  intro _
  apply Upholds.bind (Upholds.modify fun _ _ _ => trivial)
  exact fun _ => (immediate _ _).upholds

end Errors

/-- The run ended because an event stopped the transfer. -/
def StoppedRun (run : Run PyExc World Tick TraceEvent Unit) : Prop :=
  match run.ending with
  | .raised (.printAborted _) _ _ => True
  | .raised (.sheetRanOut _) _ _ => True
  | _ => False

theorem not_stoppedRun_of_writeError {run : Run PyExc World Tick TraceEvent Unit}
    (errors : ∀ past error final rest, run = ⟨past, .raised error final rest⟩ → WriteError error) :
    ¬StoppedRun run := by
  obtain ⟨past, ⟨value, final, rest⟩ | ⟨error, final, rest⟩ | ⟨final⟩⟩ := run
  · exact id
  · have failed := errors past error final rest rfl
    cases error <;> first | exact id | exact fun _ => failed
  · exact id

/-- A stop that completes a band ends as an abort when all of the band was written. -/
theorem stoppedRun_abortWith_iff (p : PrinterId) (job : Printer.Job) (offset : Nat)
    (reason : AbortReason) (w : World) (script : List Tick) :
    StoppedRun (Printer.abortWith p job offset reason w script) ↔
      (Printer.padBand p job.stream offset job.bands w script).hasReturned = true := by
  change StoppedRun (Coroutine.bind (Printer.padBand p job.stream offset job.bands) _ w script) ↔ _
  have errors : ∀ past error final rest,
      Printer.padBand p job.stream offset job.bands w script =
        ⟨past, .raised error final rest⟩ → WriteError error :=
    fun past error final rest raised => Upholds.raised_of_run (upholds_padBand _ _ _) raised
  unfold Coroutine.bind
  generalize Printer.padBand p job.stream offset job.bands w script = outcome at errors ⊢
  obtain ⟨past, ⟨value, middle, left⟩ | ⟨error, final, left⟩ | ⟨final⟩⟩ := outcome
  · exact ⟨fun _ => rfl, fun _ => trivial⟩
  · refine ⟨fun stopped => absurd stopped ?_, nofun⟩
    refine not_stoppedRun_of_writeError fun past' error' final' rest' same => ?_
    obtain ⟨rfl, ended⟩ := Run.mk.inj same
    obtain ⟨rfl, rfl, rfl⟩ := Ending.raised.inj ended
    exact errors past error final left rfl
  · exact ⟨False.elim, nofun⟩

theorem stoppedRun_after (past : List TraceEvent) (run : Run PyExc World Tick TraceEvent Unit) :
    StoppedRun (run.after past) ↔ StoppedRun run := Iff.rfl

/-- A call of `_transfer`, with the state it starts in and the answers it gets. -/
structure TransferCall where
  p : PrinterId
  job : Printer.Job
  abort : World → Bool
  slot : Nat
  fraction : ℚ
  onProgress : Nat → Nat → Py Unit
  w : World
  script : List Tick

namespace TransferCall

/-- The run of the call. -/
def run (call : TransferCall) : Run PyExc World Tick TraceEvent Unit :=
  Printer.transfer call.p call.job call.abort call.slot call.fraction call.onProgress call.w
    call.script

/-- The chunk size of the connection. -/
def chunk (call : TransferCall) : Int := (call.w.printers call.p).transport.effectiveChunkBytes

def profile (call : TransferCall) : PrinterProfile := (call.w.printers call.p).profile

/-- The number of chunks. -/
def total (call : TransferCall) : Nat := Printer.chunkCount call.job.stream.length call.chunk

/-- The first chunks, sent without a look at the events. -/
def plain (call : TransferCall) (sent : Nat) : Run PyExc World Tick TraceEvent Unit :=
  Printer.sendPieces call.p call.job call.chunk call.profile.widthBytes.toNat call.onProgress 0 sent
    call.w call.script

/-- The pieces of the stream. -/
def pieces (call : TransferCall) : List Bytes :=
  (List.range' 0 call.total).map (Printer.pieceAt call.job.stream call.chunk.toNat)

/-- A chunk boundary before the end of the stream that the plain run reaches, with an event that
applies there. -/
structure FlaggedBoundary (call : TransferCall) (sent : Nat) (past : List TraceEvent)
    (reached : World) (rest : List Tick) : Prop where
  below : sent < call.total
  plain : call.plain sent = ⟨past, .returned () reached rest⟩
  flagged : Flagged call.p call.job call.abort call.slot call.fraction
    call.profile.widthBytes.toNat (sent * call.chunk.toNat) reached

/-- The first of these boundaries. -/
structure FirstFlagged (call : TransferCall) (sent : Nat) (past : List TraceEvent)
    (reached : World) (rest : List Tick) : Prop extends
    FlaggedBoundary call sent past reached rest where
  first : ∀ earlier < sent, ∀ past reached rest, ¬call.FlaggedBoundary earlier past reached rest

/-- With an abort or an open lid all of the band in progress is written before the run ends. -/
def Completes (call : TransferCall) (sent : Nat) (reached : World) (rest : List Tick) : Prop :=
  call.abort reached = true ∨ Printer.lidOpenSet reached call.p call.slot = true →
    (Printer.padBand call.p call.job.stream (sent * call.chunk.toNat) call.job.bands reached
      rest).hasReturned = true

/-- What a call is made with: a stream built from a bitmap of the page, a chunk size, a fraction,
no row sent yet and a callback that does not wait. -/
structure WellFormed (call : TransferCall) (mode : ScaleMode) (blocks : List Block) : Prop where
  height_pos : 1 ≤ call.job.height
  built : LaidOut call.profile.widthBytes.toNat call.job.height mode call.job.stream
    call.job.bands blocks
  chunk_pos : 1 ≤ call.chunk
  fraction_nonneg : 0 ≤ call.fraction
  none_sent : (call.w.printers call.p).rowsSent = 0
  immediate : ∀ sent total, Immediate (call.onProgress sent total)

variable {call : TransferCall} {mode : ScaleMode} {blocks : List Block}

/-- At a boundary the plain run reaches, something stops the transfer when it is flagged. -/
theorem WellFormed.stops_iff_flagged (formed : call.WellFormed mode blocks) {sent : Nat}
    (below : sent < call.total) {past : List TraceEvent} {reached : World} {rest : List Tick}
    (plain : call.plain sent = ⟨past, .returned () reached rest⟩) :
    (Printer.stopAt call.p call.job call.abort call.slot call.fraction
        (sent * call.chunk.toNat) reached).isSome = true ↔
      call.FlaggedBoundary sent past reached rest := by
  have more : sent * call.chunk.toNat < call.job.stream.length :=
    (lt_chunkCount_iff formed.chunk_pos sent).mp below
  have start : (call.w.printers call.p).rowsSent =
      Printer.rowsBefore (Printer.offsetAt call.job.stream call.chunk.toNat 0) call.job.bands
        call.profile.widthBytes.toNat := by
    rw [Printer.offsetAt, Nat.zero_mul, Nat.zero_min, formed.built.rowsBefore_eq,
      formed.built.rowsWithin_zero, formed.none_sent]
  have rows := Printer.sendPieces_rowsSent formed.immediate start plain
  rw [Nat.zero_add, offsetAt_of_lt _ more, formed.built.rowsBefore_eq] at rows
  rw [stopAt_isSome_iff formed.built formed.height_pos formed.fraction_nonneg rows]
  exact ⟨fun flagged => ⟨below, plain, flagged⟩, FlaggedBoundary.flagged⟩

/-- Where nothing stopped the transfer, no boundary is flagged. -/
theorem WellFormed.unflagged (formed : call.WellFormed mode blocks) {count : Nat}
    (le : count ≤ call.total)
    (goes : Printer.GoesOn call.p call.job call.abort call.slot call.fraction call.onProgress
      call.chunk call.profile.widthBytes.toNat 0 count call.w call.script) :
    ∀ sent < count, ∀ past reached rest, ¬call.FlaggedBoundary sent past reached rest := by
  intro sent below past reached rest boundary
  have none := goes sent below past reached rest boundary.plain
  have stops := (formed.stops_iff_flagged (below.trans_le le) boundary.plain).mpr boundary
  rw [Nat.zero_add] at none
  rw [none] at stops
  cases stops

/-- The two ways a call goes. -/
theorem WellFormed.cases (formed : call.WellFormed mode blocks) :
    (∃ sent past reached rest, call.FirstFlagged sent past reached rest ∧
        call.run.hasReturned = false ∧ (StoppedRun call.run ↔ call.Completes sent reached rest)) ∨
      ((∀ sent past reached rest, ¬call.FlaggedBoundary sent past reached rest) ∧
        call.run = call.plain call.total) := by
  have nonzero : (call.w.printers call.p).transport.effectiveChunkBytes ≠ 0 := by
    have : 1 ≤ (call.w.printers call.p).transport.effectiveChunkBytes := formed.chunk_pos
    omega
  have looped : call.run = Printer.transferFrom call.p call.job call.abort call.slot call.fraction
      call.onProgress call.chunk call.profile.widthBytes.toNat 0 call.w call.script := by
    rw [run, Printer.transfer_eq call.w call.script nonzero, Printer.transferFrom, Printer.offsetAt,
      Nat.zero_mul, Nat.zero_min]
    rfl
  obtain ⟨sent, past, reached, rest, stop, below, plain, stops, goes, same⟩ | ⟨goes, same⟩ :=
    Printer.transferFrom_cases formed.immediate formed.chunk_pos call.total 0 (Nat.zero_add _)
      call.w call.script
  · left
    rw [Nat.zero_add] at stops
    have boundary := (formed.stops_iff_flagged below plain).mp (by rw [stops]; rfl)
    have first := formed.unflagged below.le goes
    refine ⟨sent, past, reached, rest, ⟨boundary, first⟩, ?_, ?_⟩
    · rw [looped, same]
      obtain ⟨reason, rfl, -⟩ | ⟨rfl, -, -⟩ := stopAt_runs stops
      · change (Coroutine.bind (Printer.padBand call.p call.job.stream _ call.job.bands) _ reached
          rest).hasReturned = false
        unfold Coroutine.bind
        generalize Printer.padBand call.p call.job.stream _ call.job.bands reached rest = outcome
        obtain ⟨_, ⟨_, _, _⟩ | ⟨_, _, _⟩ | ⟨_⟩⟩ := outcome <;> rfl
      · rfl
    · rw [looped, same, stoppedRun_after]
      obtain ⟨reason, rfl, event⟩ | ⟨rfl, running, closed⟩ := stopAt_runs stops
      · rw [stoppedRun_abortWith_iff]
        exact ⟨fun padded _ => padded, fun completes => completes event⟩
      · refine ⟨fun _ event => ?_, fun _ => trivial⟩
        obtain aborted | opened := event
        · exact absurd ⟨aborted, boundary.flagged.raster⟩ running
        · exact absurd ⟨opened, boundary.flagged.raster⟩ closed
  · right
    refine ⟨fun sent past reached rest boundary => ?_, looped.trans same⟩
    exact formed.unflagged le_rfl goes sent boundary.below past reached rest boundary

/-- There is only one first flagged boundary. -/
theorem FirstFlagged.unique {sent sent' : Nat} {past past' : List TraceEvent}
    {reached reached' : World} {rest rest' : List Tick}
    (one : call.FirstFlagged sent past reached rest)
    (other : call.FirstFlagged sent' past' reached' rest') :
    sent = sent' ∧ reached = reached' ∧ rest = rest' := by
  obtain before | rfl | after := lt_trichotomy sent sent'
  · exact absurd one.toFlaggedBoundary (other.first sent before past reached rest)
  · obtain ⟨-, ended⟩ := Run.mk.inj (one.plain.symm.trans other.plain)
    obtain ⟨-, rfl, rfl⟩ := Ending.returned.inj ended
    exact ⟨rfl, rfl, rfl⟩
  · exact absurd other.toFlaggedBoundary (one.first sent' after past' reached' rest')

/-- A transfer ends with `PrintAborted` or `SheetRanOut` exactly when an event applies at a chunk
boundary before the end of the last band and the writes that complete the band in progress go
through.  Without such a boundary it is the plain run, which sends every piece of the stream and
reports each. -/
theorem stops_iff (call : TransferCall) (bitmap : Bytes) (density : Option Density)
    (mode : ScaleMode) (feedLines : Int)
    (assembled : buildRasterStream call.profile bitmap call.job.height density mode feedLines =
      some (.ok (call.job.stream, call.job.bands)))
    (height_pos : 1 ≤ call.job.height) (chunk_pos : 1 ≤ call.chunk)
    (fraction_nonneg : 0 ≤ call.fraction)
    (none_sent : (call.w.printers call.p).rowsSent = 0)
    (immediate : ∀ sent total, Immediate (call.onProgress sent total)) :
    (StoppedRun call.run ↔ ∃ sent past reached rest,
        call.FirstFlagged sent past reached rest ∧ call.Completes sent reached rest) ∧
      ((∃ sent past reached rest, call.FlaggedBoundary sent past reached rest) →
        call.run.hasReturned = false) ∧
      ((∀ sent past reached rest, ¬call.FlaggedBoundary sent past reached rest) →
        call.run = call.plain call.total ∧
          (call.run.hasReturned = true → written call.run.trace = call.pieces)) ∧
      call.pieces.flatten = call.job.stream ∧
      (call.pieces.length : Int) = ⌈(call.job.stream.length : ℚ) / call.chunk⌉ ∧
      ∀ index, index + 1 < call.total →
        (Printer.pieceAt call.job.stream call.chunk.toNat index).length = call.chunk.toNat := by
  obtain ⟨blocks, built, -⟩ := buildRasterStream_built assembled
  have formed : call.WellFormed mode blocks :=
    ⟨height_pos, built, chunk_pos, fraction_nonneg, none_sent, immediate⟩
  have plain_errors : ¬StoppedRun (call.plain call.total) :=
    not_stoppedRun_of_writeError fun past error final rest raised =>
      Upholds.raised_of_run (upholds_sendPieces immediate 0 call.total) raised
  refine ⟨?_, ?_, ?_, ?_, ?_, ?_⟩
  · obtain ⟨sent, past, reached, rest, first, -, stopped⟩ | ⟨unflagged, same⟩ := formed.cases
    · rw [stopped]
      refine ⟨fun completes => ⟨sent, past, reached, rest, first, completes⟩, ?_⟩
      rintro ⟨sent', past', reached', rest', first', completes⟩
      obtain ⟨rfl, rfl, rfl⟩ := first.unique first'
      exact completes
    · rw [same]
      refine ⟨fun stopped => absurd stopped plain_errors, ?_⟩
      rintro ⟨sent, past, reached, rest, first, -⟩
      exact absurd first.toFlaggedBoundary (unflagged sent past reached rest)
  · rintro ⟨sent, past, reached, rest, boundary⟩
    obtain ⟨-, -, -, -, -, unreturned, -⟩ | ⟨unflagged, -⟩ := formed.cases
    · exact unreturned
    · exact absurd boundary (unflagged sent past reached rest)
  · intro unflagged
    obtain ⟨sent, past, reached, rest, first, -⟩ | ⟨-, same⟩ := formed.cases
    · exact absurd first.toFlaggedBoundary (unflagged sent past reached rest)
    · refine ⟨same, fun returned => ?_⟩
      rw [same] at returned ⊢
      obtain ⟨trace, value, final, rest, ended⟩ := Run.exists_of_hasReturned returned
      rw [ended]
      exact Printer.sendPieces_written immediate ended
  · have last := @lt_chunkCount_iff call.chunk call.job.stream.length chunk_pos call.total
    rw [pieces, Printer.pieces_flatten, List.take_of_length_le]
    exact not_lt.mp fun more => absurd (last.mpr more) (lt_irrefl _)
  · rw [pieces, List.length_map, List.length_range']
    exact Printer.chunkCount_eq_ceil call.job.stream.length chunk_pos
  · intro index below
    have more := (lt_chunkCount_iff chunk_pos (index + 1)).mp below
    rw [Nat.succ_mul] at more
    rw [Printer.pieceAt_length]
    omega

/-- Forty black rows on the strip printer, with these answers. -/
def strip (script : List Tick) : TransferCall where
  p := 0
  job := ⟨stripStream, [⟨2, 10, 50, 40⟩], 40⟩
  abort := fun w => w.session.abort
  slot := 0
  fraction := 1 / 4
  onProgress := fun _ _ => pure ()
  w := { printers := fun _ => linkedStrip }
  script

theorem immediate_pure : Immediate (pure ()) :=
  fun w => ⟨[], w, by simp, rfl, fun _ => Or.inl rfl⟩

/-- A cancel during the first chunk. -/
def cancelled : TransferCall := strip [{ incidents := [.abort] }, {}, {}]

theorem stops_iff_cancelled :
    (StoppedRun cancelled.run ↔ ∃ sent past reached rest,
        cancelled.FirstFlagged sent past reached rest ∧ cancelled.Completes sent reached rest) ∧
      ((∃ sent past reached rest, cancelled.FlaggedBoundary sent past reached rest) →
        cancelled.run.hasReturned = false) ∧
      ((∀ sent past reached rest, ¬cancelled.FlaggedBoundary sent past reached rest) →
        cancelled.run = cancelled.plain cancelled.total ∧
          (cancelled.run.hasReturned = true → written cancelled.run.trace = cancelled.pieces)) ∧
      cancelled.pieces.flatten = cancelled.job.stream ∧
      (cancelled.pieces.length : Int) =
        ⌈(cancelled.job.stream.length : ℚ) / cancelled.chunk⌉ ∧
      ∀ index, index + 1 < cancelled.total →
        (Printer.pieceAt cancelled.job.stream cancelled.chunk.toNat index).length =
          cancelled.chunk.toNat :=
  stops_iff cancelled (List.replicate 40 0xff) none .normal 20 rfl (by decide) (by decide)
    (by norm_num [cancelled, strip]) rfl fun _ _ => immediate_pure

/-- The same cancel, and the connection is lost while the band is completed. -/
def lostWhileCompleting : TransferCall :=
  strip [{ incidents := [.abort] }, { bleakError := some "gone" }]

/-- The boundary behind the first chunk is flagged, and the transfer ends with the error of the
write. -/
theorem lostWhileCompleting_unstopped :
    buildRasterStream lostWhileCompleting.profile (List.replicate 40 0xff) 40 none .normal 20 =
        some (.ok (lostWhileCompleting.job.stream, lostWhileCompleting.job.bands)) ∧
      ¬StoppedRun lostWhileCompleting.run ∧
      (∃ past final, lostWhileCompleting.run =
        ⟨past, .raised (.connectionError "BLE write failed: gone") final []⟩) ∧
      ∃ past reached rest, lostWhileCompleting.FlaggedBoundary 1 past reached rest := by
  refine ⟨rfl, id, ⟨_, _, rfl⟩, _, _, _, by decide, rfl, by decide, Or.inl rfl⟩

end TransferCall

end Phomemo
