import Phomemo.RowCount
import Phomemo.Upkeep.Wire

/-!
# The progress of a page

A print attempt pushes percentages from its transfer only.  The rows that lie before what was
written never get fewer, so the percentages rise, and with the end of the stream comes the last one.
-/

namespace Phomemo

open Async Coroutine

/-! ## Percentages -/

/-- The percentage of a progress event. -/
def TraceEvent.percent? : TraceEvent → Option Int
  | .pushed (.progress percent) => some percent
  | _ => none

/-- The percentages pushed, in order. -/
def percents (past : List TraceEvent) : List Int := past.filterMap TraceEvent.percent?

/-- The percentage of a number of rows, in steps of five. -/
def percentOf (rows height : Nat) : Int := (100 * rows / height / 5 * 5 : Nat)

section Percent

variable {rows height : Nat}

theorem percentOf_mono {fewer : Nat} (le : fewer ≤ rows) :
    percentOf fewer height ≤ percentOf rows height := by
  unfold percentOf
  have quotient : 100 * fewer / height ≤ 100 * rows / height :=
    Nat.div_le_div_right (Nat.mul_le_mul_left 100 le)
  have steps : 100 * fewer / height / 5 ≤ 100 * rows / height / 5 := Nat.div_le_div_right quotient
  exact_mod_cast Nat.mul_le_mul_right 5 steps

theorem percentOf_all (height_pos : 1 ≤ height) : percentOf height height = 100 := by
  rw [percentOf, Nat.mul_div_cancel _ height_pos]
  rfl

theorem percentOf_le (height_pos : 1 ≤ height) (le : rows ≤ height) :
    percentOf rows height ≤ 100 :=
  (percentOf_mono le).trans (percentOf_all height_pos).le

/-- A percentage is never above the share of the rows. -/
theorem percentOf_mul_le (rows height : Nat) : percentOf rows height * height ≤ 100 * rows := by
  have steps : 100 * rows / height / 5 * 5 ≤ 100 * rows / height := Nat.div_mul_le_self _ 5
  have share : 100 * rows / height * height ≤ 100 * rows := Nat.div_mul_le_self _ height
  unfold percentOf
  exact_mod_cast (Nat.mul_le_mul_right height steps).trans share

/-- Percentages as a report may push them. -/
structure Ascending (pushed : List Int) : Prop where
  steps : ∀ percent ∈ pushed, 5 ∣ percent ∧ 0 ≤ percent ∧ percent ≤ 100
  increasing : pushed.Pairwise (· < ·)

theorem Ascending.nil : Ascending [] := ⟨by simp, List.Pairwise.nil⟩

theorem Ascending.concat {pushed : List Int} (ascending : Ascending pushed)
    (height_pos : 1 ≤ height) (le : rows ≤ height)
    (above : ∀ percent ∈ pushed, percent < percentOf rows height) :
    Ascending (pushed ++ [percentOf rows height]) := by
  constructor
  · intro percent member
    obtain earlier | here := List.mem_append.mp member
    · exact ascending.steps percent earlier
    · obtain rfl := List.mem_singleton.mp here
      refine ⟨?_, Int.natCast_nonneg _, percentOf_le height_pos le⟩
      exact ⟨(100 * rows / height / 5 : Nat), by unfold percentOf; push_cast; ring⟩
  · refine List.pairwise_append.mpr ⟨ascending.increasing, List.pairwise_singleton _ _, ?_⟩
    intro percent member other here
    obtain rfl := List.mem_singleton.mp here
    exact above percent member

/-- No percentage is above the last one. -/
theorem Ascending.le_last {pushed : List Int} {last : Int} (ascending : Ascending pushed)
    (ends : pushed.getLast? = some last) : ∀ percent ∈ pushed, percent ≤ last := by
  obtain ⟨earlier, rfl⟩ := List.getLast?_eq_some_iff.mp ends
  intro percent member
  obtain before | here := List.mem_append.mp member
  · have increasing := (List.pairwise_append.mp ascending.increasing).2.2
    exact (increasing percent before last List.mem_cons_self).le
  · exact (List.mem_singleton.mp here).le

end Percent

/-! ## What a report keeps -/

/-- A pushed percentage is covered by the rows of what was written before it. -/
def Covered (width height : Nat) (stream : Bytes) (bands : List Band) (before : List TraceEvent)
    (event : TraceEvent) : Prop :=
  ∀ percent, event = .pushed (.progress percent) →
    (written before).flatten <+: stream ∧
      percent * height ≤ 100 * rowsWithin width bands (written before).flatten.length

/-- Events that are neither progress nor the end of the print. -/
def TraceEvent.Unreported (event : TraceEvent) : Prop :=
  event.percent? = none ∧ event ≠ .printReturned

/-- The cell of the callback, the percentages pushed so far and what they rest on. -/
structure Reporting (p : PrinterId) (width height : Nat) (stream : Bytes) (bands : List Band)
    (last : Int) (pushed : List Int) (w : World) (past : List TraceEvent) : Prop where
  width_eq : (w.printers p).profile.widthBytes.toNat = width
  last_eq : w.session.lastPercent = last
  pushed_eq : percents past = pushed
  covered : Throughout (Covered width height stream bands) past
  unreturned : .printReturned ∉ past

namespace World

variable {w : World}

/-- No incident touches the cell of a callback. -/
theorem happen_lastPercent (incident : Incident) :
    (w.happen incident).1.session.lastPercent = w.session.lastPercent := by
  cases incident with
  | abort => rfl
  | dropped p => rfl
  | notified p events => rfl
  | holdExpires =>
      simp only [happen]
      split <;> rfl
  | holdStarts =>
      simp only [happen]
      split
      · rfl
      · simp only [startHoldTask]
        split
        · rfl
        · split <;> rfl
  | holdEnds p =>
      simp only [happen]
      split <;> rfl

theorem setRowsSent_rows (w : World) (p : PrinterId) (rows : Nat) :
    ((w.setRowsSent p rows).printers p).rowsSent = rows := by
  rw [setRowsSent, setPrinter_printers, if_pos rfl]

theorem awaken_lastPercent (answer : Tick) :
    (w.awaken answer).session.lastPercent = w.session.lastPercent := by
  change (w.happenAll answer.incidents).1.session.lastPercent = _
  induction answer.incidents generalizing w with
  | nil => rfl
  | cons incident incidents ih => exact ih.trans (happen_lastPercent incident)

end World

namespace Reporting

variable {rely : TraceEvent → Prop} {p : PrinterId} {width height : Nat} {stream : Bytes}
  {bands : List Band} {last : Int} {pushed : List Int} {w : World} {past : List TraceEvent}
  {fails : PyExc → Prop}

theorem move {after : World} (reporting : Reporting p width height stream bands last pushed w past)
    (profile : (after.printers p).profile = (w.printers p).profile)
    (same : after.session.lastPercent = w.session.lastPercent) :
    Reporting p width height stream bands last pushed after past where
  width_eq := by
    rw [profile]
    exact reporting.width_eq
  last_eq := same.trans reporting.last_eq
  pushed_eq := reporting.pushed_eq
  covered := reporting.covered
  unreturned := reporting.unreturned

theorem change {change : Printer → Printer}
    (reporting : Reporting p width height stream bands last pushed w past)
    (profile : (change (w.printers p)).profile = (w.printers p).profile) :
    Reporting p width height stream bands last pushed (w.setPrinter p change) past := by
  refine reporting.move ?_ rfl
  rw [World.setPrinter_printers, if_pos rfl]
  exact profile

theorem record (reporting : Reporting p width height stream bands last pushed w past)
    (event : TraceEvent) (unreported : event.Unreported) :
    Reporting p width height stream bands last pushed w (past ++ [event]) where
  width_eq := reporting.width_eq
  last_eq := reporting.last_eq
  pushed_eq := by
    rw [percents, List.filterMap_append, ← percents, reporting.pushed_eq,
      List.filterMap_cons_none]
    · exact List.append_nil pushed
    · exact unreported.1
  covered := by
    apply reporting.covered.concat
    rintro percent rfl
    cases unreported.1
  unreturned := by
    intro member
    obtain before | here := List.mem_append.mp member
    · exact reporting.unreturned before
    · exact unreported.2 (List.mem_singleton.mp here).symm

theorem records {events : List TraceEvent}
    (reporting : Reporting p width height stream bands last pushed w past)
    (unreported : ∀ event ∈ events, event.Unreported) :
    Reporting p width height stream bands last pushed w (past ++ events) := by
  induction events generalizing past with
  | nil =>
      rw [List.append_nil]
      exact reporting
  | cons event events ih =>
      have here := reporting.record event (unreported event List.mem_cons_self)
      have rest := ih here fun other member => unreported other (List.mem_cons_of_mem event member)
      rwa [List.append_assoc] at rest

theorem awaken (reporting : Reporting p width height stream bands last pushed w past)
    (answer : Tick) :
    Reporting p width height stream bands last pushed (w.awaken answer)
      (past ++ w.awakening answer) := by
  have same := (World.awaited_awaken (w := w) answer).profile p
  apply Reporting.records (reporting.move same (World.awaken_lastPercent answer))
  intro event member
  cases World.awakening_events answer event member <;> exact ⟨rfl, nofun⟩

/-- A new percentage. -/
theorem push {percent : Int} (reporting : Reporting p width height stream bands last pushed w past)
    (covered : Covered width height stream bands past (.pushed (.progress percent))) :
    Reporting p width height stream bands percent (pushed ++ [percent])
      (w.setSession fun session => { session with lastPercent := percent })
      (past ++ [.pushed (.progress percent)]) where
  width_eq := reporting.width_eq
  last_eq := rfl
  pushed_eq := by
    rw [percents, List.filterMap_append, ← percents, reporting.pushed_eq]
    rfl
  covered := reporting.covered.concat covered
  unreturned := by
    intro member
    obtain before | here := List.mem_append.mp member
    · exact reporting.unreturned before
    · cases List.mem_singleton.mp here

/-! ## The parts that push nothing -/

theorem upholds_pause :
    Upholds rely (Reporting p width height stream bands last pushed) fails pause := by
  refine Upholds.bind (fun w past reporting => ?_) fun _ => Upholds.pure ()
  exact ensures_tick reporting fun answer _ => reporting.awaken answer

theorem upholds_listeners (change : Listeners → Listeners) :
    Upholds rely (Reporting p width height stream bands last pushed) fails
      (Coroutine.modify fun w => w.setListeners p change : Py Unit) :=
  Upholds.modify fun _ _ reporting => reporting.change rfl

/-- One write, and that its bytes are handed over. -/
theorem ensures_write (reporting : Reporting p width height stream bands last pushed w past)
    (data : Bytes) :
    Ensures rely (BleTransport.write p data)
      ⟨fun _ w later => Reporting p width height stream bands last pushed w later ∧
          written later = written past ++ [data],
        fun _ => Reporting p width height stream bands last pushed,
        Reporting p width height stream bands last pushed⟩ w past := by
  apply BleTransport.ensures_write
  · exact fun _ => reporting
  · exact fun _ _ _ => reporting
  · exact fun _ _ => reporting
  · intro client _ _ _
    have wrote := reporting.record (.wrote p client.address data) ⟨rfl, nofun⟩
    refine ⟨wrote, fun answer _ => ?_⟩
    have awake := wrote.awaken answer
    refine ⟨⟨awake, ?_⟩, fun _ text => ?_⟩
    · rw [written_append, written_append, written_awakening, List.append_nil]
      rfl
    · have down : Reporting p width height stream bands last pushed
        ((w.awaken answer).setConnected p false) _ :=
        awake.move (World.setTransport_profile p p _) rfl
      exact down.record (.writeFailed p) ⟨rfl, nofun⟩

theorem upholds_write (data : Bytes) :
    Upholds rely (Reporting p width height stream bands last pushed) (fun _ => True)
      (BleTransport.write p data) := by
  intro w past reporting
  apply (reporting.ensures_write data).mono
  · exact fun _ _ _ => And.left
  · exact fun _ _ _ kept => ⟨kept, trivial⟩
  · exact fun _ _ => id

theorem upholds_padBand (offset : Nat) :
    Upholds rely (Reporting p width height stream bands last pushed) (fun _ => True)
      (Printer.padBand p stream offset bands) := by
  have pieces : ∀ (size fuel : Nat) (data : Bytes),
      Upholds rely (Reporting p width height stream bands last pushed) (fun _ => True)
        (Printer.writePieces p size fuel data) := by
    intro size fuel
    induction fuel with
    | zero => exact fun _ => Upholds.pure ()
    | succ fuel ih =>
        intro data
        cases data with
        | nil => exact Upholds.pure ()
        | cons byte rest => exact Upholds.bind (upholds_write _) fun _ => ih _
  apply Upholds.bind Upholds.read
  exact fun w => pieces _ _ _

theorem upholds_queryLid :
    Upholds rely (Reporting p width height stream bands last pushed) (fun _ => True)
      (Printer.queryLid p) := by
  have waits : ∀ eventType,
      Upholds rely (Reporting p width height stream bands last pushed) (fun _ => True)
        (Printer.waitFor p eventType) := by
    intro eventType
    apply Upholds.bind Upholds.read
    intro w
    apply Upholds.bind (upholds_listeners _)
    intro _
    apply Upholds.bind upholds_pause
    intro _
    apply Upholds.bind Upholds.read
    intro w
    apply Upholds.bind (upholds_listeners _)
    exact fun _ => Upholds.pure _
  apply Upholds.bind (Upholds.bind (upholds_write _) fun _ => waits _)
  exact fun _ => Upholds.pure _

theorem upholds_awaitCompletion (entry : Nat) :
    Upholds rely (Reporting p width height stream bands last pushed) (fun _ => True)
      (Printer.awaitCompletion p entry) :=
  Phomemo.upholds_awaitCompletion upholds_pause upholds_queryLid (fun _ => trivial) trivial trivial
    entry

/-- Arming a job writes nothing and waits for nothing. -/
theorem ensures_armJob {post : Post PyExc World TraceEvent (Nat × Nat)}
    (reporting : Reporting p width height stream bands last pushed w past)
    (returned : ∀ places w, Reporting p width height stream bands last pushed w past →
      post.returned places w past) :
    Ensures rely (Printer.armJob p) post w past := by
  apply Ensures.read_bind
  apply Ensures.modify_bind
  apply Ensures.bind
  apply Ensures.read_bind
  apply Ensures.modify_bind
  apply Ensures.pure
  apply Ensures.modify_bind
  apply Ensures.pure
  apply returned
  exact ((reporting.change rfl).change rfl).change rfl

theorem upholds_disarmJob (entry slot : Nat) :
    Upholds rely (Reporting p width height stream bands last pushed) (fun _ => True)
      (Printer.disarmJob p entry slot) := by
  apply Upholds.bind (upholds_listeners _)
  intro _
  apply Upholds.bind (upholds_listeners _)
  exact fun _ => Upholds.modify fun _ _ reporting => reporting.change rfl

end Reporting

/-! ## The transfer -/

/-- What has been pushed when a report ends, wherever that is. -/
def Reported (p : PrinterId) (width height : Nat) (stream : Bytes) (bands : List Band) (w : World)
    (past : List TraceEvent) : Prop :=
  ∃ last pushed, Ascending pushed ∧ Reporting p width height stream bands last pushed w past

/-- The last percentage pushed is that of so many rows. -/
def ReportedTo (p : PrinterId) (width height : Nat) (stream : Bytes) (bands : List Band)
    (rows : Nat) (w : World) (past : List TraceEvent) : Prop :=
  ∃ pushed, Ascending pushed ∧ pushed.getLast? = some (percentOf rows height) ∧
    Reporting p width height stream bands (percentOf rows height) pushed w past

/-- Nothing is out yet, or the rows before an offset have been reported. -/
def Told (p : PrinterId) (width height : Nat) (stream : Bytes) (bands : List Band) (offset : Nat)
    (w : World) (past : List TraceEvent) : Prop :=
  offset = 0 ∧ Reporting p width height stream bands (-1) [] w past ∨
    ReportedTo p width height stream bands (rowsWithin width bands offset) w past

/-- Where a transfer stands between two chunks. -/
structure Progressed (p : PrinterId) (width height : Nat) (stream : Bytes) (bands : List Band)
    (offset : Nat) (w : World) (past : List TraceEvent) : Prop where
  inside : offset ≤ stream.length
  sent : (written past).flatten = stream.take offset
  told : Told p width height stream bands offset w past

section Transfer

variable {rely : TraceEvent → Prop} {p : PrinterId} {width height : Nat} {mode : ScaleMode}
  {stream : Bytes} {bands : List Band} {blocks : List Block} {offset : Nat} {w : World}
  {past : List TraceEvent}

theorem ReportedTo.reported {rows : Nat}
    (reported : ReportedTo p width height stream bands rows w past) :
    Reported p width height stream bands w past := by
  obtain ⟨pushed, ascending, -, reporting⟩ := reported
  exact ⟨_, pushed, ascending, reporting⟩

theorem Progressed.reported (progressed : Progressed p width height stream bands offset w past) :
    Reported p width height stream bands w past := by
  obtain ⟨-, fresh⟩ | reported := progressed.told
  · exact ⟨_, [], .nil, fresh⟩
  · exact reported.reported

theorem Told.setRowsSent (told : Told p width height stream bands offset w past) (rows : Nat) :
    Told p width height stream bands offset (w.setRowsSent p rows) past := by
  obtain ⟨start, reporting⟩ | ⟨pushed, ascending, ends, reporting⟩ := told
  · exact Or.inl ⟨start, reporting.change rfl⟩
  · exact Or.inr ⟨pushed, ascending, ends, reporting.change rfl⟩

/-- What is true of one report as long as nothing is pushed is true of what has been pushed. -/
theorem Reported.ensures {α : Type} {program : Py α}
    (quiet : ∀ last pushed,
      Keeps rely (Reporting p width height stream bands last pushed) program)
    (reported : Reported p width height stream bands w past) :
    Ensures rely program
      ⟨fun _ => Reported p width height stream bands,
        fun _ => Reported p width height stream bands,
        Reported p width height stream bands⟩ w past := by
  obtain ⟨last, pushed, ascending, reporting⟩ := reported
  apply (quiet last pushed).ensures reporting
  · exact fun _ w past kept => ⟨last, pushed, ascending, kept⟩
  · exact fun _ w past kept _ => ⟨last, pushed, ascending, kept⟩
  · exact fun w past kept => ⟨last, pushed, ascending, kept⟩

theorem ReportedTo.ensures {α : Type} {program : Py α} {rows : Nat}
    (quiet : ∀ last pushed,
      Keeps rely (Reporting p width height stream bands last pushed) program)
    (reported : ReportedTo p width height stream bands rows w past) :
    Ensures rely program
      ⟨fun _ => ReportedTo p width height stream bands rows,
        fun _ => Reported p width height stream bands,
        Reported p width height stream bands⟩ w past := by
  obtain ⟨pushed, ascending, ends, reporting⟩ := reported
  apply (quiet _ pushed).ensures reporting
  · exact fun _ w past kept => ⟨pushed, ascending, ends, kept⟩
  · exact fun _ w past kept _ => ⟨_, pushed, ascending, kept⟩
  · exact fun w past kept => ⟨_, pushed, ascending, kept⟩

/-- The callback brings what is reported up to date: the percentage grows or stays. -/
theorem ensures_onProgress (built : LaidOut width height mode stream bands blocks)
    (height_pos : 1 ≤ height) {earlier : Nat} (le : earlier ≤ offset)
    (inside : offset ≤ stream.length) (sent : (written past).flatten = stream.take offset)
    (rows : (w.printers p).rowsSent = rowsWithin width bands offset)
    (told : Told p width height stream bands earlier w past) :
    Ensures rely (handle (Session.onProgress p height) fun _ => pure ())
      ⟨fun _ => Progressed p width height stream bands offset, fun _ _ _ => False,
        Reported p width height stream bands⟩ w past := by
  have rows_le := built.rowsWithin_le offset
  have grown : rowsWithin width bands earlier ≤ rowsWithin width bands offset :=
    rowsWithin_mono le
  have covered : Covered width height stream bands past
      (.pushed (.progress (percentOf (rowsWithin width bands offset) height))) := by
    intro percent same
    obtain rfl := PushedEvent.progress.inj (TraceEvent.pushed.inj same)
    rw [sent, List.length_take_of_le inside]
    exact ⟨List.take_prefix _ _, percentOf_mul_le _ _⟩
  have pushing : ∀ {last : Int} {pushed : List Int},
      Reporting p width height stream bands last pushed w past → Ascending pushed →
      (∀ percent ∈ pushed, percent < percentOf (rowsWithin width bands offset) height) →
      Progressed p width height stream bands offset
        (w.setSession fun session =>
          { session with lastPercent := percentOf (rowsWithin width bands offset) height })
        (past ++ [.pushed (.progress (percentOf (rowsWithin width bands offset) height))]) := by
    intro last pushed reporting ascending above
    refine ⟨inside, ?_, Or.inr ⟨_, ascending.concat height_pos rows_le above, ?_,
      reporting.push covered⟩⟩
    · rw [written_append]
      change (written past ++ []).flatten = _
      rw [List.append_nil]
      exact sent
    · exact List.getLast?_concat
  apply Ensures.handle
  apply Ensures.read_bind
  dsimp only
  have percent : (if height = 0 then (100 : Int)
      else ((100 * (w.printers p).rowsSent / height / 5 * 5 : Nat) : Int)) =
        percentOf (rowsWithin width bands offset) height := by
    rw [if_neg (Nat.ne_of_gt height_pos), rows]
    rfl
  rw [percent]
  apply Ensures.ite
  · intro changed
    apply Ensures.modify_bind
    apply Ensures.emit
    intro _
    obtain ⟨-, reporting⟩ | ⟨pushed, ascending, ends, reporting⟩ := told
    · exact pushing reporting .nil (by simp)
    · apply pushing reporting ascending
      intro percent member
      have below := ascending.le_last ends percent member
      have mono : percentOf (rowsWithin width bands earlier) height ≤
          percentOf (rowsWithin width bands offset) height := percentOf_mono grown
      rw [reporting.last_eq] at changed
      omega
  · intro same
    have same : percentOf (rowsWithin width bands offset) height = w.session.lastPercent :=
      not_not.mp same
    apply Ensures.pure
    refine ⟨inside, sent, Or.inr ?_⟩
    obtain ⟨-, reporting⟩ | ⟨pushed, ascending, ends, reporting⟩ := told
    · rw [reporting.last_eq] at same
      have nonneg : 0 ≤ percentOf (rowsWithin width bands offset) height := Int.natCast_nonneg _
      omega
    · rw [reporting.last_eq] at same
      exact ⟨pushed, ascending, same ▸ ends, same ▸ reporting⟩

/-- The next chunk of a transfer. -/
theorem Progressed.ensures_chunk
    (progressed : Progressed p width height stream bands offset w past)
    (inside : offset < stream.length) (size : Nat) :
    Ensures rely (BleTransport.write p ((stream.drop offset).take size))
      ⟨fun _ w past => offset ≤ offset + ((stream.drop offset).take size).length ∧
          offset + ((stream.drop offset).take size).length ≤ stream.length ∧
          (written past).flatten =
            stream.take (offset + ((stream.drop offset).take size).length) ∧
          Told p width height stream bands offset w past,
        fun _ => Reported p width height stream bands,
        Reported p width height stream bands⟩ w past := by
  have upTo : offset + ((stream.drop offset).take size).length ≤ stream.length := by
    rw [List.length_take, List.length_drop]
    omega
  have handed : ∀ past', written past' = written past ++ [(stream.drop offset).take size] →
      (written past').flatten =
        stream.take (offset + ((stream.drop offset).take size).length) := by
    intro past' wrote
    rw [wrote, List.flatten_append, progressed.sent, List.flatten_singleton,
      take_append_piece]
  obtain ⟨start, reporting⟩ | ⟨pushed, ascending, ends, reporting⟩ := progressed.told
  · apply (reporting.ensures_write _).mono
    · rintro _ w past ⟨reporting, wrote⟩
      exact ⟨Nat.le_add_right _ _, upTo, handed past wrote, Or.inl ⟨start, reporting⟩⟩
    · exact fun _ w past kept => ⟨_, [], .nil, kept⟩
    · exact fun w past kept => ⟨_, [], .nil, kept⟩
  · apply (reporting.ensures_write _).mono
    · rintro _ w past ⟨reporting, wrote⟩
      exact ⟨Nat.le_add_right _ _, upTo, handed past wrote,
        Or.inr ⟨pushed, ascending, ends, reporting⟩⟩
    · exact fun _ w past kept => ⟨_, pushed, ascending, kept⟩
    · exact fun w past kept => ⟨_, pushed, ascending, kept⟩

/-- A transfer that returns has reported all rows. -/
theorem ensures_reportedTransfer (built : LaidOut width height mode stream bands blocks)
    (height_pos : 1 ≤ height) (silent : written past = [])
    (fresh : Reporting p width height stream bands (-1) [] w past) (abort : World → Bool)
    (slot : Nat) (fraction : ℚ) :
    Ensures rely (Printer.transfer p ⟨stream, bands, height⟩ abort slot fraction
        fun _ _ => Session.onProgress p height)
      ⟨fun _ => ReportedTo p width height stream bands height,
        fun _ => Reported p width height stream bands,
        Reported p width height stream bands⟩ w past := by
  have begun : Reported p width height stream bands w past := ⟨_, [], .nil, fresh⟩
  apply Ensures.read_bind
  dsimp only
  rw [fresh.width_eq]
  generalize (w.printers p).transport.effectiveChunkBytes = chunk
  apply Ensures.ite
  · exact fun _ => Ensures.raise begun
  · intro _
    apply Ensures.iterate fun progress => Progressed p width height stream bands progress.1
    · exact fun _ _ _ progressed => progressed.reported
    · rintro ⟨offset, sent⟩ w past progressed
      dsimp only at progressed ⊢
      apply Ensures.ite
      · intro inside
        have stops : ∀ reason, Ensures rely
            (Printer.padBand p stream offset bands >>= fun _ =>
              (raise (.printAborted reason) : Py ((Nat × Nat) ⊕ Unit)))
            ⟨fun _ _ _ => False, fun _ => Reported p width height stream bands,
              Reported p width height stream bands⟩ w past := by
          intro reason
          apply Ensures.seq (progressed.reported.ensures fun _ _ => Reporting.upholds_padBand _)
          · exact fun _ w past kept => Ensures.raise kept
          · exact fun _ _ _ => id
          · exact fun _ _ => id
        apply Ensures.read_bind
        apply Ensures.ite
        · intro _
          exact (stops .cancelled).mono (fun _ _ _ => False.elim) (fun _ _ _ => id) fun _ _ => id
        · intro _
          apply Ensures.ite
          · intro _
            exact (stops .lidOpened).mono (fun _ _ _ => False.elim) (fun _ _ _ => id) fun _ _ => id
          · intro _
            apply Ensures.ite
            · exact fun _ => Ensures.raise progressed.reported
            · intro _
              apply Ensures.seq (progressed.ensures_chunk inside _)
              · rintro _ w past ⟨le, upTo, handed, told⟩
                apply Ensures.modify_bind
                have rows := (World.setRowsSent_rows w p _).trans
                  (built.rowsBefore_eq (offset + ((stream.drop offset).take chunk.toNat).length))
                apply Ensures.seq
                  (ensures_onProgress built height_pos le upTo handed rows (told.setRowsSent _))
                · exact fun _ w past progressed => Ensures.pure progressed
                · exact fun _ _ _ => False.elim
                · exact fun _ _ => id
              · exact fun _ _ _ => id
              · exact fun _ _ => id
      · intro atEnd
        obtain rfl : offset = stream.length := Nat.le_antisymm progressed.inside (not_lt.mp atEnd)
        obtain ⟨none, -⟩ | reported := progressed.told
        · exact absurd none (Nat.ne_of_gt built.stream_pos)
        · rw [built.rowsWithin_tail built.tailStart_le] at reported
          exact Ensures.pure reported
    · exact ⟨Nat.zero_le _, by rw [silent]; rfl, Or.inl ⟨rfl, fresh⟩⟩

end Transfer

/-! ## The attempt -/

/-- A pushed percentage is covered by the stream the bitmap is sent as. -/
def PageCovered (profile : PrinterProfile) (bitmap : Bytes) (height : Nat) (density : Density)
    (before : List TraceEvent) (event : TraceEvent) : Prop :=
  ∀ percent, event = .pushed (.progress percent) → ∃ stream bands,
    buildRasterStream profile bitmap height (some density) .normal 20 =
        some (.ok (stream, bands)) ∧
      (written before).flatten <+: stream ∧
      percent * height ≤
        100 * rowsWithin profile.widthBytes.toNat bands (written before).flatten.length

/-- What the pushes of a print attempt come to. -/
structure PageProgress (profile : PrinterProfile) (bitmap : Bytes) (height : Nat)
    (density : Density) (past : List TraceEvent) : Prop where
  ascending : Ascending (percents past)
  covered : Throughout (PageCovered profile bitmap height density) past
  complete : .printReturned ∈ past → (percents past).getLast? = some 100

section Attempt

variable {rely : TraceEvent → Prop} {p : PrinterId} {profile : PrinterProfile} {bitmap : Bytes}
  {height : Nat} {density : Density} {stream : Bytes} {bands : List Band} {w : World}
  {past : List TraceEvent}

theorem PageProgress.nil : PageProgress profile bitmap height density [] :=
  ⟨.nil, throughout_nil, nofun⟩

theorem PageProgress.record {event : TraceEvent}
    (progress : PageProgress profile bitmap height density past) (silent : event.percent? = none)
    (complete : event = .printReturned → (percents past).getLast? = some 100) :
    PageProgress profile bitmap height density (past ++ [event]) := by
  have same : percents (past ++ [event]) = percents past := by
    rw [percents, List.filterMap_append, List.filterMap_cons_none silent]
    exact List.append_nil _
  refine ⟨by rw [same]; exact progress.ascending, ?_, ?_⟩
  · apply progress.covered.concat
    rintro percent rfl
    cases silent
  · intro member
    rw [same]
    obtain before | here := List.mem_append.mp member
    · exact progress.complete before
    · exact complete (List.mem_singleton.mp here).symm

theorem Reported.progress
    (built : buildRasterStream profile bitmap height (some density) .normal 20 =
      some (.ok (stream, bands)))
    (reported : Reported p profile.widthBytes.toNat height stream bands w past) :
    PageProgress profile bitmap height density past := by
  obtain ⟨last, pushed, ascending, reporting⟩ := reported
  refine ⟨by rw [reporting.pushed_eq]; exact ascending, ?_, fun member =>
    absurd member reporting.unreturned⟩
  intro before event after split percent pushes
  exact ⟨stream, bands, built, reporting.covered before event after split percent pushes⟩

/-- A job pushes percentages that rise to 100. -/
theorem ensures_reportedJob
    (built : buildRasterStream profile bitmap height (some density) .normal 20 =
      some (.ok (stream, bands)))
    (height_pos : 1 ≤ height) (silent : written past = [])
    (fresh : Reporting p profile.widthBytes.toNat height stream bands (-1) [] w past)
    (abort : World → Bool) :
    Ensures rely (do
        let (entry, slot) ← Printer.armJob p
        andFinally
          (do
            Printer.transfer p ⟨stream, bands, height⟩ abort slot (1 / 4)
              fun _ _ => Session.onProgress p height
            Printer.awaitCompletion p entry)
          (Printer.disarmJob p entry slot)
        emit .printReturned : Py Unit)
      ⟨fun _ w past => PageProgress profile bitmap height density past ∧
          w.session.lastPercent = 100,
        fun _ _ => PageProgress profile bitmap height density,
        fun _ => PageProgress profile bitmap height density⟩ w past := by
  obtain ⟨blocks, laid, -⟩ := buildRasterStream_built built
  apply Ensures.bind
  apply fresh.ensures_armJob
  rintro ⟨entry, slot⟩ w fresh
  have completes : Ensures rely (andFinally
      (do
        Printer.transfer p ⟨stream, bands, height⟩ abort slot (1 / 4)
          fun _ _ => Session.onProgress p height
        Printer.awaitCompletion p entry)
      (Printer.disarmJob p entry slot))
      ⟨fun _ => ReportedTo p profile.widthBytes.toNat height stream bands height,
        fun _ => Reported p profile.widthBytes.toNat height stream bands,
        Reported p profile.widthBytes.toNat height stream bands⟩ w past := by
    have disarms : ∀ last pushed, Keeps rely
        (Reporting p profile.widthBytes.toNat height stream bands last pushed)
        (Printer.disarmJob p entry slot) := fun _ _ => Reporting.upholds_disarmJob entry slot
    have cleans : ∀ w past, Reported p profile.widthBytes.toNat height stream bands w past →
        Ensures rely (Printer.disarmJob p entry slot)
          ⟨fun _ => Reported p profile.widthBytes.toNat height stream bands,
            fun _ => Reported p profile.widthBytes.toNat height stream bands,
            Reported p profile.widthBytes.toNat height stream bands⟩ w past :=
      fun w past reported => reported.ensures disarms
    apply Ensures.andFinally
    apply Ensures.seq (ensures_reportedTransfer laid height_pos silent fresh abort slot _)
    · intro _ w past reported
      apply (reported.ensures fun _ _ => Reporting.upholds_awaitCompletion entry).mono
      · exact fun _ w past reported => reported.ensures disarms
      · exact fun _ w past reported => cleans w past reported
      · exact fun _ _ => id
    · exact fun _ w past reported => cleans w past reported
    · exact fun _ _ => id
  apply Ensures.seq completes
  · rintro _ w past ⟨pushed, ascending, ends, reporting⟩
    rw [percentOf_all height_pos] at ends reporting
    apply Ensures.emit
    intro _
    have progress := Reported.progress built ⟨_, pushed, ascending, reporting⟩
    refine ⟨progress.record rfl fun _ => ?_, reporting.last_eq⟩
    rw [reporting.pushed_eq]
    exact ends
  · exact fun _ _ _ reported => reported.progress built
  · exact fun _ _ reported => reported.progress built

theorem ensures_reportedPrint (height_pos : 1 ≤ height)
    (profile_eq : (w.printers p).profile = profile) (fresh : w.session.lastPercent = -1)
    (abort : World → Bool) :
    Ensures rely (Printer.printBitmap p bitmap height (some density) abort
        fun _ _ => Session.onProgress p height)
      ⟨fun _ w past => PageProgress profile bitmap height density past ∧
          w.session.lastPercent = 100,
        fun _ _ => PageProgress profile bitmap height density,
        fun _ => PageProgress profile bitmap height density⟩ w [] := by
  have called : ∀ call, PageProgress profile bitmap height density ([] ++ [.printCalled call]) :=
    fun call => PageProgress.nil.record rfl nofun
  apply Ensures.read_bind
  apply Ensures.emit_bind
  intro _
  apply Ensures.ite
  · intro _
    rw [profile_eq]
    cases built : buildRasterStream profile bitmap height (some density) .normal 20 with
    | none => exact Ensures.diverge (by exact called _)
    | some outcome =>
        cases outcome with
        | error exc => exact Ensures.raise (by exact called _)
        | ok job =>
            obtain ⟨stream, bands⟩ := job
            have begun : Reporting p profile.widthBytes.toNat height stream bands (-1) [] w [] :=
              ⟨by rw [profile_eq], fresh, rfl, throughout_nil, nofun⟩
            exact ensures_reportedJob built height_pos rfl
              (begun.record (.printCalled _) ⟨rfl, nofun⟩) abort
  · exact fun _ => Ensures.raise (by exact called _)

theorem ensures_printPage_progress (height_pos : 1 ≤ height) (w : World) :
    Ensures rely (Session.printPage p bitmap height density)
      ⟨fun _ _ => PageProgress (w.printers p).profile bitmap height density,
        fun _ _ => PageProgress (w.printers p).profile bitmap height density,
        fun _ => PageProgress (w.printers p).profile bitmap height density⟩ w [] := by
  apply Ensures.modify_bind
  apply Ensures.seq (ensures_reportedPrint height_pos rfl rfl _)
  · rintro _ w past ⟨progress, whole⟩
    apply Ensures.read_bind
    rw [whole]
    exact Ensures.pure progress
  · exact fun _ _ _ => id
  · exact fun _ _ => id

end Attempt

namespace Session

/-- Whatever a print attempt comes to, the percentages it pushed are multiples of five that rise
from 0 to 100 at most, each covered by the rows written before it.  A print that returns has
pushed 100 last, and once. -/
theorem printPage_progress (p : PrinterId) (bitmap : Bytes) (height : Nat) (density : Density)
    (height_pos : 1 ≤ height) (w : World) (script : List Tick) :
    let trace := (printPage p bitmap height density w script).trace
    (∀ percent ∈ percents trace, 5 ∣ percent ∧ 0 ≤ percent ∧ percent ≤ 100) ∧
      (percents trace).Pairwise (· < ·) ∧
      (∀ before (percent : Int) after, trace = before ++ .pushed (.progress percent) :: after →
        ∃ stream bands,
          buildRasterStream (w.printers p).profile bitmap height (some density) .normal 20 =
              some (.ok (stream, bands)) ∧
            (written before).flatten <+: stream ∧
            percent * height ≤ 100 * rowsWithin (w.printers p).profile.widthBytes.toNat bands
              (written before).flatten.length) ∧
      (.printReturned ∈ trace →
        (percents trace).getLast? = some 100 ∧ (percents trace).count 100 = 1) := by
  intro trace
  have progress : PageProgress (w.printers p).profile bitmap height density trace :=
    Ensures.always (ensures_printPage_progress height_pos w) fun _ _ => trivial
  refine ⟨progress.ascending.steps, progress.ascending.increasing, ?_, ?_⟩
  · exact fun before percent after split => progress.covered before _ after split percent rfl
  · intro returned
    have ends := progress.complete returned
    have distinct : (percents trace).Nodup :=
      progress.ascending.increasing.imp fun below => ne_of_lt below
    exact ⟨ends, List.count_eq_one_of_mem distinct (List.mem_of_getLast? ends)⟩

/-- Three chunks, the motor stop and a closed lid. -/
def stripAnswers : List Tick :=
  [{}, {}, {}, { incidents := [.notified 0 [⟨0x0f, [], .motorStop⟩]] }, {},
    { incidents := [.notified 0 [⟨0x05, [], .lid .closed⟩]] }]

theorem printPage_progress_strip :
    let trace := (printPage 0 (List.replicate 40 0xff) 40 .medium
      { printers := fun _ => linkedStrip } stripAnswers).trace
    percents trace = [25, 75, 100] ∧ (percents trace).Pairwise (· < ·) ∧
      (percents trace).getLast? = some 100 ∧ (percents trace).count 100 = 1 := by
  intro trace
  have progress := printPage_progress 0 (List.replicate 40 0xff) 40 .medium (by decide)
    { printers := fun _ => linkedStrip } stripAnswers
  exact ⟨rfl, progress.2.1, progress.2.2.2 (List.mem_of_getLast? (by rfl))⟩

end Session

end Phomemo
