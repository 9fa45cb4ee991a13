import Phomemo.Chunks
import Phomemo.Watches

/-!
# Feeding a sheet out

The eject keeps a few feeds queued ahead and sends one more for each wait that times out, until the
sensor reports the sheet gone or no feed is left.  A log of the trace counts feeds and waits, and
every moment of an eject is bounded in terms of it.
-/

namespace Phomemo

open Async Coroutine

/-! ## The log of an eject -/

/-- What the trace of an eject shows. -/
structure EjectLog where
  /-- The answer to the paper query, once it is read. -/
  answer : Option (Option PaperState) := none
  /-- What was written after that, in order. -/
  feeds : List Bytes := []
  /-- A paper-absent event was delivered. -/
  gone : Bool := false
  /-- A write is awaited. -/
  writing : Bool := false
  /-- The waits for that event that timed out. -/
  timeouts : Nat := 0

namespace EjectLog

/-- One more event.  An await that belongs to no write is a wait for the sensor. -/
def next (p : PrinterId) (log : EjectLog) : TraceEvent → EjectLog
  | .paperRead answer => { log with answer := some answer }
  | .wrote _ _ data =>
      { log with
        feeds := if log.answer.isSome then log.feeds ++ [data] else log.feeds
        writing := true }
  | .tick answer =>
      let gone := log.gone || (answer.arrivals p).any DeviceEvent.sheetGone
      { log with
        gone := gone
        writing := false
        timeouts :=
          if log.answer.isSome ∧ !log.writing ∧ !gone then log.timeouts + 1 else log.timeouts }
  | _ => log

/-- The log of a trace. -/
def of (p : PrinterId) (past : List TraceEvent) : EjectLog := past.foldl (next p) {}

theorem of_concat (p : PrinterId) (past : List TraceEvent) (event : TraceEvent) :
    of p (past ++ [event]) = (of p past).next p event := by
  rw [of, List.foldl_append]
  rfl

end EjectLog

/-- The command that feeds so many rows. -/
def feedBytes (rows : Int) : Bytes := [0x1b, 0x64] ++ [UInt8.ofNat rows.toNat]

/-- What an eject is asked to do: the rows of its two feeds, how many at most and how many ahead. -/
structure EjectPlan where
  maxFeeds : Nat
  stepRows : Int
  ahead : Nat
  clearRows : Int

namespace EjectPlan

/-- A feed that moves the sheet on. -/
def step (plan : EjectPlan) : Bytes := feedBytes plan.stepRows

/-- The feed that clears the rollers. -/
def clear (plan : EjectPlan) : Bytes := feedBytes plan.clearRows

/-- Both feeds can be sent. -/
structure Fits (plan : EjectPlan) : Prop where
  step : 1 ≤ plan.stepRows ∧ plan.stepRows ≤ 255
  clear : 1 ≤ plan.clearRows ∧ plan.clearRows ≤ 255

/-- The eject. -/
def run (plan : EjectPlan) (p : PrinterId) : Py Bool :=
  Printer.ejectPaper p plan.maxFeeds plan.stepRows plan.ahead plan.clearRows

end EjectPlan

theorem encodeFeedLines_fits {rows : Int} (fits : 1 ≤ rows ∧ rows ≤ 255) :
    encodeFeedLines rows = .ok (feedBytes rows) := by
  rw [encodeFeedLines, if_pos fits]
  rfl

/-- What a log may show at any moment of an eject. -/
structure EjectLog.Allowed (plan : EjectPlan) (log : EjectLog) : Prop where
  asking : log.answer = none → log.feeds = []
  blind : ∀ answer, log.answer = some answer → answer ≠ some .present →
    log.feeds <+: List.replicate 3 plan.clear
  watching : log.answer = some (some .present) → ∃ count ≤ plan.maxFeeds,
    count ≤ plan.ahead + log.timeouts ∧
      (log.feeds = List.replicate count plan.step ∨
        log.gone = true ∧ log.feeds = List.replicate count plan.step ++ [plan.clear])

/-- What the log of an eject shows when it returned. -/
inductive EjectLog.Ended (plan : EjectPlan) (log : EjectLog) : Bool → Prop where
  /-- The query was not answered with a sheet at the sensor. -/
  | blind (answer : Option PaperState) (read : log.answer = some answer)
      (other : answer ≠ some .present) (feeds : log.feeds = List.replicate 3 plan.clear) :
      Ended plan log true
  | cleared (count : Nat) (read : log.answer = some (some .present)) (gone : log.gone = true)
      (le : count ≤ plan.maxFeeds)
      (feeds : log.feeds = List.replicate count plan.step ++ [plan.clear]) : Ended plan log true
  | stuck (read : log.answer = some (some .present)) (present : log.gone = false)
      (feeds : log.feeds = List.replicate plan.maxFeeds plan.step)
      (waited : log.timeouts = plan.maxFeeds - plan.ahead + 1) : Ended plan log false

/-- Why a write of three bytes raises, by where it leaves the printer. -/
inductive CannotWrite (p : PrinterId) (w : World) (past : List TraceEvent) : PyExc → Prop where
  | unconnected (none : (w.printers p).transport.client = none) :
      CannotWrite p w past (.runtimeError "Not connected")
  | lost (down : (w.printers p).transport.connected = false) (text : String) :
      CannotWrite p w past (.connectionError text)
  | oversize (small : (w.printers p).transport.effectiveChunkBytes < 3) (text : String) :
      CannotWrite p w past (.valueError text)
  /-- The client refused the bytes. -/
  | failed (last : past.getLast? = some (.writeFailed p)) (text : String) :
      CannotWrite p w past (.connectionError text)

/-- Listeners have no part in it. -/
theorem CannotWrite.setListeners {p : PrinterId} {w : World} {past : List TraceEvent}
    {error : PyExc} (cannot : CannotWrite p w past error) (change : Listeners → Listeners) :
    CannotWrite p (w.setListeners p change) past error := by
  have same : ((w.setListeners p change).printers p).transport = (w.printers p).transport := by
    rw [World.setListeners, World.setPrinter_printers, if_pos rfl]
  cases cannot with
  | unconnected none => exact .unconnected (same ▸ none)
  | lost down text => exact .lost (same ▸ down) text
  | oversize small text => exact .oversize (same ▸ small) text
  | failed last text => exact .failed last text

/-! ## Moments -/

/-- Every moment so far is allowed, and this is the log now. -/
structure Logged (p : PrinterId) (plan : EjectPlan) (log : EjectLog) (past : List TraceEvent) :
    Prop where
  log_eq : EjectLog.of p past = log
  allowed : log.Allowed plan
  moments : Throughout (fun before event => (EjectLog.of p (before ++ [event])).Allowed plan) past

namespace Logged

variable {p : PrinterId} {plan : EjectPlan} {log : EjectLog} {past : List TraceEvent}

theorem concat (logged : Logged p plan log past) (event : TraceEvent)
    (allowed : (log.next p event).Allowed plan) :
    Logged p plan (log.next p event) (past ++ [event]) := by
  have now : EjectLog.of p (past ++ [event]) = log.next p event := by
    rw [EjectLog.of_concat, logged.log_eq]
  refine ⟨now, allowed, logged.moments.concat ?_⟩
  rw [now]
  exact allowed

/-- Events that say nothing about feeds. -/
theorem skip (logged : Logged p plan log past) {events : List TraceEvent}
    (silent : ∀ event ∈ events, ∀ log : EjectLog, log.next p event = log) :
    Logged p plan log (past ++ events) := by
  induction events generalizing past with
  | nil =>
      rw [List.append_nil]
      exact logged
  | cons event events ih =>
      have same := silent event List.mem_cons_self log
      have here := logged.concat event (same.symm ▸ logged.allowed)
      rw [same] at here
      have rest := ih here fun other member => silent other (List.mem_cons_of_mem event member)
      rwa [List.append_assoc] at rest

/-- An await adds no feed. -/
theorem Allowed.tick (allowed : log.Allowed plan) (answer : Tick) :
    (log.next p (.tick answer)).Allowed plan where
  asking := allowed.asking
  blind := allowed.blind
  watching := by
    intro present
    obtain ⟨count, le, bound, feeds⟩ := allowed.watching present
    refine ⟨count, le, ?_, ?_⟩
    · have grown : log.timeouts ≤ (log.next p (.tick answer)).timeouts := by
        simp only [EjectLog.next]
        split <;> omega
      omega
    · obtain steps | ⟨gone, cleared⟩ := feeds
      · exact Or.inl steps
      · exact Or.inr ⟨by simp [EjectLog.next, gone], cleared⟩

theorem awaken (logged : Logged p plan log past) (w : World) (answer : Tick) :
    Logged p plan (log.next p (.tick answer)) (past ++ w.awakening answer) := by
  have ticked := logged.concat (.tick answer) (Allowed.tick logged.allowed answer)
  have rest : ∀ event ∈ (w.happenAll answer.incidents).2, ∀ log : EjectLog,
      log.next p event = log := by
    intro event member log
    cases World.happenAll_events answer.incidents event member <;> rfl
  have whole := ticked.skip rest
  rwa [List.append_assoc] at whole

end Logged

/-! ## The parts of an eject -/

/-- The callback is registered and has seen what the log says. -/
structure Ejecting (p : PrinterId) (slot : Nat) (plan : EjectPlan) (log : EjectLog) (w : World)
    (past : List TraceEvent) : Prop extends Logged p plan log past where
  listens : Listens p slot (.eject log.gone) w

/-- Every moment of an eject that is over or still waits was allowed. -/
abbrev Moments (p : PrinterId) (plan : EjectPlan) (past : List TraceEvent) : Prop :=
  Throughout (fun before event => (EjectLog.of p (before ++ [event])).Allowed plan) past

namespace Ejecting

variable {p : PrinterId} {slot : Nat} {plan : EjectPlan} {log : EjectLog} {w : World}
  {past : List TraceEvent}

theorem awaken (ejecting : Ejecting p slot plan log w past) (answer : Tick) :
    Ejecting p slot plan (log.next p (.tick answer)) (w.awaken answer)
      (past ++ w.awakening answer) where
  toLogged := ejecting.toLogged.awaken w answer
  listens := by
    have heard := ejecting.listens.awaken answer
    rw [Watch.calls_eject] at heard
    exact heard

theorem setWaiters (ejecting : Ejecting p slot plan log w past) {change : Listeners → Listeners}
    (callbacks : ∀ listeners, (change listeners).callbacks = listeners.callbacks) :
    Ejecting p slot plan log (w.setListeners p change) past :=
  ⟨ejecting.toLogged, ejecting.listens.setWaiters callbacks⟩

/-- A write adds its bytes to the feeds once the query is answered. -/
theorem ensures_write (ejecting : Ejecting p slot plan log w past) {data : Bytes}
    (short : data.length = 3)
    (allowed : ∀ q address, (log.next p (.wrote q address data)).Allowed plan) :
    Ensures (fun _ => True) (BleTransport.write p data)
      ⟨fun _ w past => ∃ gone, (log.gone = true → gone = true) ∧
          Ejecting p slot plan
            { log with
              feeds := if log.answer.isSome then log.feeds ++ [data] else log.feeds
              gone := gone
              writing := false } w past,
        fun error w past => Moments p plan past ∧ CannotWrite p w past error,
        fun _ past => Moments p plan past⟩ w past := by
  apply BleTransport.ensures_write
  · exact fun none => ⟨ejecting.moments, .unconnected none⟩
  · exact fun _ down text => ⟨ejecting.moments, .lost down text⟩
  · intro tooLong text
    rw [short] at tooLong
    exact ⟨ejecting.moments, .oversize tooLong text⟩
  · intro client _ _ _
    have wrote : Ejecting p slot plan (log.next p (.wrote p client.address data)) w
        (past ++ [.wrote p client.address data]) :=
      ⟨ejecting.toLogged.concat _ (allowed p client.address), ejecting.listens⟩
    refine ⟨wrote.moments, fun answer _ => ?_⟩
    have awake := wrote.awaken answer
    have same : (log.next p (.wrote p client.address data)).next p (.tick answer) =
        { log with
          feeds := if log.answer.isSome then log.feeds ++ [data] else log.feeds
          gone := log.gone || (answer.arrivals p).any DeviceEvent.sheetGone
          writing := false } := by
      simp [EjectLog.next]
    rw [same] at awake
    refine ⟨⟨_, ?_, awake⟩, fun _ text => ⟨?_, .failed List.getLast?_concat text⟩⟩
    · intro gone
      rw [gone, Bool.true_or]
    · have silent : ∀ event ∈ [TraceEvent.writeFailed p], ∀ log : EjectLog,
          log.next p event = log := by
        intro event member log
        obtain rfl := List.mem_singleton.mp member
        rfl
      exact (awake.toLogged.skip silent).moments

/-- A feed. -/
theorem ensures_feed (ejecting : Ejecting p slot plan log w past) {rows : Int}
    (fits : 1 ≤ rows ∧ rows ≤ 255) {answer : Option PaperState} (read : log.answer = some answer)
    (allowed : EjectLog.Allowed plan
      { log with feeds := log.feeds ++ [feedBytes rows], writing := true }) :
    Ensures (fun _ => True) (Printer.feed p rows)
      ⟨fun _ w past => ∃ gone, (log.gone = true → gone = true) ∧
          Ejecting p slot plan
            { log with feeds := log.feeds ++ [feedBytes rows], gone := gone, writing := false }
            w past,
        fun error w past => Moments p plan past ∧ CannotWrite p w past error,
        fun _ past => Moments p plan past⟩ w past := by
  have some : log.answer.isSome = true := by rw [read]; rfl
  have wrote := @ensures_write _ _ _ _ _ _ ejecting (feedBytes rows) rfl (by
    intro q address
    simp only [EjectLog.next, if_pos some]
    exact allowed)
  rw [if_pos some] at wrote
  unfold Printer.feed
  rw [encodeFeedLines_fits fits, ofExcept, Coroutine.pure_bind]
  exact wrote

/-- A wait for the sensor ends with the event, or it timed out. -/
theorem ensures_waitAbsent (ejecting : Ejecting p slot plan log w past)
    {answer : Option PaperState} (read : log.answer = some answer) (idle : log.writing = false) :
    Ensures (fun _ => True) (Printer.waitAbsent p slot)
      ⟨fun gone w past =>
          gone = true ∧ Ejecting p slot plan { log with gone := true } w past ∨
            gone = false ∧ log.gone = false ∧
              Ejecting p slot plan { log with timeouts := log.timeouts + 1 } w past,
        fun _ _ _ => False, fun _ past => Moments p plan past⟩ w past := by
  have flag : ∀ {gone : Bool} {w : World}, Listens p slot (.eject gone) w →
      Printer.absentSet w p slot = gone := by
    intro gone w listens
    unfold Printer.absentSet
    rw [listens]
  apply Ensures.read_bind
  rw [flag ejecting.listens]
  apply Ensures.ite
  · intro gone
    refine Ensures.pure (Or.inl ⟨rfl, ?_⟩)
    rw [← gone]
    exact ejecting
  · intro present
    have present : log.gone = false := Bool.eq_false_of_not_eq_true present
    apply Ensures.bind
    refine ensures_tick_bind (by exact ejecting.moments) fun tick _ => Ensures.pure ?_
    have awake := ejecting.awaken tick
    apply Ensures.read_bind
    rw [flag awake.listens]
    have some : log.answer.isSome = true := by rw [read]; rfl
    by_cases gone : (log.gone || (tick.arrivals p).any DeviceEvent.sheetGone) = true
    · refine Ensures.pure (Or.inl ⟨gone, ?_⟩)
      simp only [EjectLog.next, gone, idle] at awake
      simpa [idle] using awake
    · have still : (log.gone || (tick.arrivals p).any DeviceEvent.sheetGone) = false :=
        Bool.eq_false_of_not_eq_true gone
      refine Ensures.pure (Or.inr ⟨still, present, ?_⟩)
      simp only [EjectLog.next, still, idle, some] at awake
      simpa [idle, present] using awake

/-- The query is answered before anything is fed. -/
theorem ensures_queryPaper (ejecting : Ejecting p slot plan {} w past) :
    Ensures (fun _ => True) (Printer.queryPaper p)
      ⟨fun answer w past => ∃ gone,
          Ejecting p slot plan { answer := some answer, gone := gone } w past,
        fun error w past => Moments p plan past ∧ CannotWrite p w past error,
        fun _ past => Moments p plan past⟩ w past := by
  have unread : ∀ {log : EjectLog}, log.answer = none → log.feeds = [] → log.Allowed plan :=
    fun none empty => ⟨fun _ => empty, fun answer read => by simp [none] at read,
      fun read => by simp [none] at read⟩
  apply Ensures.bind
  apply Ensures.bind
  apply (ejecting.ensures_write rfl fun _ _ => unread rfl rfl).mono
  · rintro _ w past ⟨gone, -, wrote⟩
    apply Ensures.read_bind
    apply Ensures.modify_bind
    have armed : Ejecting p slot plan { gone := gone } (w.setListeners p fun listeners =>
        { listeners with waiters := listeners.waiters ++ [{ eventType := .paperEvent }] }) past :=
      wrote.setWaiters fun _ => rfl
    apply Ensures.bind
    refine ensures_tick_bind (by exact armed.moments) fun tick _ => Ensures.pure ?_
    have awake := armed.awaken tick
    have same : EjectLog.next p { gone := gone } (.tick tick) =
        { gone := gone || (tick.arrivals p).any DeviceEvent.sheetGone } := by
      simp [EjectLog.next]
    rw [same] at awake
    apply Ensures.read_bind
    apply Ensures.modify_bind
    apply Ensures.pure
    apply Ensures.emit_bind
    intro _
    refine Ensures.pure ⟨gone || (tick.arrivals p).any DeviceEvent.sheetGone, ?_⟩
    refine ⟨awake.toLogged.concat (.paperRead _) ⟨nofun, ?_, ?_⟩,
      awake.listens.setWaiters fun _ => rfl⟩
    · exact fun _ _ _ => List.nil_prefix
    · exact fun _ => ⟨0, Nat.zero_le _, Nat.zero_le _, Or.inl rfl⟩
  · exact fun _ _ _ => id
  · exact fun _ _ => id

end Ejecting

/-- So many feeds of the sheet are out, and so many waits timed out. -/
def Feeding (p : PrinterId) (slot : Nat) (plan : EjectPlan) (sent timeouts : Nat) (w : World)
    (past : List TraceEvent) : Prop :=
  ∃ gone, Ejecting p slot plan
    { answer := some (some .present)
      feeds := List.replicate sent plan.step
      gone := gone
      timeouts := timeouts } w past

/-- The eject has returned this. -/
def Ejected (p : PrinterId) (plan : EjectPlan) (gone : Bool) (past : List TraceEvent) : Prop :=
  ∃ log : EjectLog, log.Ended plan gone ∧ Logged p plan log past

section Eject

variable {p : PrinterId} {slot : Nat} {plan : EjectPlan} {sent timeouts : Nat} {w : World}
  {past : List TraceEvent}

/-- One more feed of the sheet. -/
theorem Feeding.ensures_feed (feeding : Feeding p slot plan sent timeouts w past)
    (fits : plan.Fits) (le : sent + 1 ≤ plan.maxFeeds) (bound : sent + 1 ≤ plan.ahead + timeouts) :
    Ensures (fun _ => True) (Printer.feed p plan.stepRows)
      ⟨fun _ => Feeding p slot plan (sent + 1) timeouts,
        fun error w past => Moments p plan past ∧ CannotWrite p w past error,
        fun _ past => Moments p plan past⟩ w past := by
  obtain ⟨gone, ejecting⟩ := feeding
  have more : List.replicate sent plan.step ++ [feedBytes plan.stepRows] =
      List.replicate (sent + 1) plan.step := List.replicate_succ'.symm
  apply (ejecting.ensures_feed fits.step rfl ⟨nofun, ?_, ?_⟩).mono
  · rintro _ w past ⟨gone, -, fed⟩
    rw [more] at fed
    exact ⟨gone, fed⟩
  · exact fun _ _ _ => id
  · exact fun _ _ => id
  · intro answer read other
    exact absurd (Option.some.inj read).symm other
  · exact fun _ => ⟨sent + 1, le, bound, Or.inl more⟩

/-- The loop of an eject: whatever the sensor reports and when, it ends as it should. -/
theorem ensures_ejectLoop (fits : plan.Fits)
    (feeding : Feeding p slot plan (min plan.ahead plan.maxFeeds) 0 w past) :
    Ensures (fun _ => True)
      (Printer.ejectLoop p slot plan.maxFeeds plan.stepRows plan.clearRows
        (min plan.ahead plan.maxFeeds))
      ⟨fun gone _ past => Ejected p plan gone past,
        fun error w past => Moments p plan past ∧ CannotWrite p w past error,
        fun _ past => Moments p plan past⟩ w past := by
  apply Ensures.iterate fun sent w past => ∃ timeouts, sent ≤ plan.maxFeeds ∧
    sent = min plan.ahead plan.maxFeeds + timeouts ∧ Feeding p slot plan sent timeouts w past
  · rintro sent w past ⟨timeouts, -, -, gone, ejecting⟩
    exact ejecting.moments
  · rintro sent w past ⟨timeouts, le, count, gone, ejecting⟩
    apply Ensures.seq (ejecting.ensures_waitAbsent rfl rfl)
    · rintro gone w past (⟨rfl, cleared⟩ | ⟨rfl, present, timedOut⟩)
      · rw [if_pos rfl]
        have allowed : EjectLog.Allowed plan
            { answer := some (some .present)
              feeds := List.replicate sent plan.step ++ [feedBytes plan.clearRows]
              gone := true
              timeouts := timeouts
              writing := true } := by
          refine ⟨nofun, fun answer read other => ?_, fun _ => ?_⟩
          · exact absurd (Option.some.inj read).symm other
          · exact ⟨sent, le, by dsimp only; omega, Or.inr ⟨rfl, rfl⟩⟩
        apply Ensures.seq (cleared.ensures_feed fits.clear rfl allowed)
        · rintro _ w past ⟨gone, still, fed⟩
          exact Ensures.pure ⟨_, .cleared sent rfl (still rfl) le rfl, fed.toLogged⟩
        · exact fun _ _ _ => id
        · exact fun _ _ => id
      · rw [if_neg Bool.false_ne_true]
        apply Ensures.ite
        · intro all
          obtain rfl : sent = plan.maxFeeds := Nat.le_antisymm le all
          refine Ensures.pure ⟨_, ?_, timedOut.toLogged⟩
          exact .stuck rfl present rfl (by dsimp only; omega)
        · intro more
          have feeding : Feeding p slot plan sent (timeouts + 1) w past := ⟨_, timedOut⟩
          apply Ensures.seq (feeding.ensures_feed fits (by omega) (by omega))
          · rintro _ w past fed
            exact Ensures.pure ⟨timeouts + 1, by omega, by omega, fed⟩
          · exact fun _ _ _ => id
          · exact fun _ _ => id
    · exact fun _ _ _ => False.elim
    · exact fun _ _ => id
  · exact ⟨0, Nat.min_le_right _ _, rfl, feeding⟩

/-- The feeds ahead. -/
theorem ensures_feedAhead (fits : plan.Fits) (feeding : Feeding p slot plan 0 0 w past) :
    Ensures (fun _ => True)
      (Coroutine.times (min plan.ahead plan.maxFeeds) (Printer.feed p plan.stepRows))
      ⟨fun _ => Feeding p slot plan (min plan.ahead plan.maxFeeds) 0,
        fun error w past => Moments p plan past ∧ CannotWrite p w past error,
        fun _ past => Moments p plan past⟩ w past := by
  apply Ensures.times fun sent => Feeding p slot plan sent 0
  · exact fun _ _ => id
  · exact fun sent below w past feeding => feeding.ensures_feed fits (by omega) (by omega)
  · exact feeding

/-- Without a sheet at the sensor the rollers are cleared. -/
theorem ensures_clearRollers (fits : plan.Fits) {answer : Option PaperState} {gone : Bool}
    (other : answer ≠ some .present)
    (ejecting : Ejecting p slot plan { answer := some answer, gone := gone } w past) :
    Ensures (fun _ => True) (Coroutine.times 3 (Printer.feed p plan.clearRows))
      ⟨fun _ _ past => Ejected p plan true past,
        fun error w past => Moments p plan past ∧ CannotWrite p w past error,
        fun _ past => Moments p plan past⟩ w past := by
  apply Ensures.times fun sent w past => ∃ gone, Ejecting p slot plan
    { answer := some answer, feeds := List.replicate sent plan.clear, gone := gone } w past
  · rintro w past ⟨gone, ejecting⟩
    exact ⟨_, .blind answer rfl other rfl, ejecting.toLogged⟩
  · rintro sent below w past ⟨gone, ejecting⟩
    have more : List.replicate sent plan.clear ++ [feedBytes plan.clearRows] =
        List.replicate (sent + 1) plan.clear := List.replicate_succ'.symm
    apply (ejecting.ensures_feed fits.clear rfl ⟨nofun, ?_, ?_⟩).mono
    · rintro _ w past ⟨gone, -, fed⟩
      rw [more] at fed
      exact ⟨gone, fed⟩
    · exact fun _ _ _ => id
    · exact fun _ _ => id
    · intro _ _ _
      dsimp only
      rw [more, List.prefix_replicate_iff, List.length_replicate]
      exact ⟨below, rfl⟩
    · intro read
      exact absurd (Option.some.inj read) other
  · exact ⟨gone, ejecting⟩

/-- The whole eject, from the registration of its callback on. -/
theorem ensures_eject (fits : plan.Fits) (w : World) :
    Ensures (fun _ => True) (plan.run p)
      ⟨fun gone _ past => Ejected p plan gone past,
        fun error w past => Moments p plan past ∧ CannotWrite p w past error,
        fun _ past => Moments p plan past⟩ w [] := by
  have reports : ∀ {gone : Bool} {past : List TraceEvent}, Ejected p plan gone past →
      Ejected p plan gone (past ++ [.ejected gone]) := by
    rintro gone past ⟨log, ended, logged⟩
    refine ⟨log, ended, logged.skip fun event member log => ?_⟩
    obtain rfl := List.mem_singleton.mp member
    rfl
  apply Ensures.bind
  apply Ensures.read_bind
  apply Ensures.modify_bind
  apply Ensures.pure
  have begun : Ejecting p _ plan {} (w.setListeners p fun listeners =>
      { listeners with callbacks := listeners.callbacks ++ [.eject false] }) [] :=
    ⟨⟨rfl, ⟨fun _ => rfl, nofun, nofun⟩, throughout_nil⟩, Listens.added w p (.eject false)⟩
  apply Ensures.andFinally
  apply Ensures.seq begun.ensures_queryPaper
  · rintro answer w past ⟨gone, asked⟩
    apply Ensures.ite
    · rintro rfl
      apply Ensures.seq (ensures_feedAhead fits ⟨gone, asked⟩)
      · intro _ w past feeding
        apply Ensures.seq (ensures_ejectLoop fits feeding)
        · intro gone w past ejected
          apply Ensures.emit_bind
          intro _
          exact Ensures.pure (Ensures.modify (reports ejected))
        · exact fun _ w past failed => Ensures.modify ⟨failed.1, failed.2.setListeners _⟩
        · exact fun _ _ => id
      · exact fun _ w past failed => Ensures.modify ⟨failed.1, failed.2.setListeners _⟩
      · exact fun _ _ => id
    · intro other
      apply Ensures.seq (ensures_clearRollers fits other asked)
      · intro _ w past ejected
        apply Ensures.emit_bind
        intro _
        exact Ensures.pure (Ensures.modify (reports ejected))
      · exact fun _ w past failed => Ensures.modify ⟨failed.1, failed.2.setListeners _⟩
      · exact fun _ _ => id
  · exact fun _ w past failed => Ensures.modify ⟨failed.1, failed.2.setListeners _⟩
  · exact fun _ _ => id

end Eject

/-! ## The awaits of an eject -/

theorem within_tick : Within 1 tick :=
  Within.bind Within.suspend fun _ => Within.bind Within.read fun _ =>
    Within.bind (Within.modify _) fun _ => Within.bind (Within.emitAll _) fun _ => Within.pure _

theorem within_tick_bind {α : Type} {count : Nat} {next : Tick → Py α}
    (rest : ∀ answer, Within count (next answer)) : Within (count + 1) (tick >>= next) :=
  (Within.bind within_tick rest).mono (Nat.add_comm 1 count).le

theorem within_pause : Within 1 pause :=
  Within.bind within_tick fun _ => Within.pure ()

theorem BleTransport.within_write (p : PrinterId) (data : Bytes) :
    Within 1 (BleTransport.write p data) := by
  have raises : ∀ error, Within 1 (raise error : Py Unit) :=
    fun error => (Within.raise error).mono (Nat.zero_le 1)
  apply Within.free_bind Within.read
  intro w
  dsimp only
  cases (w.printers p).transport.client with
  | none => exact raises _
  | some client =>
      refine Within.ite (raises _) (Within.ite (raises _) ?_)
      apply Within.free_bind (Within.emit _)
      intro _
      apply within_tick_bind
      intro answer
      cases answer.bleakError with
      | none => exact Within.pure _
      | some text =>
          exact Within.bind (Within.modify _) fun _ => Within.bind (Within.emit _) fun _ =>
            Within.raise _

theorem within_feed (p : PrinterId) {rows : Int} (fits : 1 ≤ rows ∧ rows ≤ 255) :
    Within 1 (Printer.feed p rows) := by
  unfold Printer.feed
  rw [encodeFeedLines_fits fits, ofExcept, Coroutine.pure_bind]
  exact BleTransport.within_write p _

theorem within_waitAbsent (p : PrinterId) (slot : Nat) : Within 1 (Printer.waitAbsent p slot) := by
  apply Within.free_bind Within.read
  intro w
  apply Within.ite
  · exact (Within.pure true).mono (Nat.zero_le 1)
  · exact Within.bind within_pause fun _ => Within.bind Within.read fun _ => Within.pure _

/-- A query awaits its write and its answer. -/
theorem within_query (p : PrinterId) (command : QueryCommand) (eventType : EventClass) :
    Within 2 (Printer.query p command eventType) := by
  have waits : Within 1 (Printer.waitFor p eventType) := by
    apply Within.free_bind Within.read
    intro w
    apply Within.free_bind (Within.modify _)
    intro _
    exact Within.bind within_pause fun _ => Within.bind Within.read fun _ =>
      Within.bind (Within.modify _) fun _ => Within.pure _
  exact Within.bind (BleTransport.within_write p _) fun _ => waits

theorem within_queryPaper (p : PrinterId) : Within 2 (Printer.queryPaper p) :=
  Within.bind (within_query p .paperState .paperEvent) fun _ =>
    Within.bind (Within.emit _) fun _ => Within.pure _

section Awaits

variable {p : PrinterId} {slot : Nat} {plan : EjectPlan}

/-- A round of the loop that goes on has fed the sheet. -/
theorem ejectLoop_advances (fits : plan.Fits) (sent : Nat) :
    Advances (do
      if ← Printer.waitAbsent p slot then
        Printer.feed p plan.clearRows
        return .inr true
      else if plan.maxFeeds ≤ sent then
        return .inr false
      else
        Printer.feed p plan.stepRows
        return .inl (sent + 1) : Py (Nat ⊕ Bool)) := by
  have waits : Uses (fun _ => 0) (Printer.waitAbsent p slot) := by
    apply Uses.bind Uses.read
    intro w
    apply Uses.ite
    · exact Uses.pure rfl
    · have pauses : Uses (fun _ => 0) pause :=
        Uses.bind (uses_tick.mono fun _ => Nat.zero_le 1) fun _ => Uses.pure rfl
      exact Uses.bind pauses fun _ => Uses.bind Uses.read fun _ => Uses.pure rfl
  have feeds : ∀ {rows : Int}, 1 ≤ rows ∧ rows ≤ 255 → Uses (fun _ => 1) (Printer.feed p rows) := by
    intro rows fits
    unfold Printer.feed
    rw [encodeFeedLines_fits fits, ofExcept, Coroutine.pure_bind]
    exact BleTransport.uses_write p _
  apply Uses.bind waits
  intro gone
  apply Uses.ite
  · exact Uses.bind (feeds fits.clear) fun _ => Uses.pure rfl
  · apply Uses.ite
    · exact Uses.pure rfl
    · exact Uses.bind (feeds fits.step) fun _ => Uses.pure rfl

/-- One round and, when a feed is left, the loop after it. -/
theorem within_ejectRound (fits : plan.Fits) {sent rest : Nat}
    (later : ¬plan.maxFeeds ≤ sent → Within rest
      (Printer.ejectLoop p slot plan.maxFeeds plan.stepRows plan.clearRows (sent + 1))) :
    Within (1 + (1 + rest))
      (Printer.ejectLoop p slot plan.maxFeeds plan.stepRows plan.clearRows sent) := by
  rw [Printer.ejectLoop, iterate_unfold (ejectLoop_advances fits), Coroutine.bind_assoc]
  refine Within.bind (within_waitAbsent p slot) fun gone => ?_
  cases gone with
  | true =>
      rw [if_pos rfl, Coroutine.bind_assoc]
      exact Within.bind (within_feed p fits.clear) fun _ => (Within.pure true).mono (Nat.zero_le _)
  | false =>
      rw [if_neg Bool.false_ne_true]
      by_cases all : plan.maxFeeds ≤ sent
      · rw [if_pos all]
        exact (Within.pure false).mono (Nat.zero_le _)
      · rw [if_neg all, Coroutine.bind_assoc]
        exact Within.bind (within_feed p fits.step) fun _ => later all

theorem within_ejectLoop (fits : plan.Fits) (left sent : Nat)
    (whole : sent + left = plan.maxFeeds) :
    Within (2 * left + 2)
      (Printer.ejectLoop p slot plan.maxFeeds plan.stepRows plan.clearRows sent) := by
  induction left generalizing sent with
  | zero =>
      have last : Within (1 + (1 + 0)) _ :=
        @within_ejectRound p slot plan fits sent 0 fun more => absurd whole.ge more
      exact last
  | succ left ih =>
      have round : Within (1 + (1 + (2 * left + 2))) _ :=
        @within_ejectRound p slot plan fits sent _ fun _ => ih (sent + 1) (by omega)
      exact round.mono (by omega)

theorem within_eject (fits : plan.Fits) : Within (2 * plan.maxFeeds + 5) (plan.run p) := by
  have watches : Within 0 (Printer.addWatch p (.eject false)) :=
    Within.bind Within.read fun _ => Within.bind (Within.modify _) fun _ => Within.pure _
  apply Within.free_bind watches
  intro slot
  refine Within.andFinally ?_ (Within.modify _)
  have looped : Within (min plan.ahead plan.maxFeeds * 1 +
      (2 * (plan.maxFeeds - min plan.ahead plan.maxFeeds) + 2)) (do
        Coroutine.times (min plan.ahead plan.maxFeeds) (Printer.feed p plan.stepRows)
        let gone ← Printer.ejectLoop p slot plan.maxFeeds plan.stepRows plan.clearRows
          (min plan.ahead plan.maxFeeds)
        emit (.ejected gone)
        return gone) := by
    refine Within.bind (Within.times (within_feed p fits.step) _) fun _ => ?_
    have feeds := @within_ejectLoop p slot plan fits
      (plan.maxFeeds - min plan.ahead plan.maxFeeds) (min plan.ahead plan.maxFeeds) (by omega)
    refine Within.mono (Within.bind feeds fun gone => (?_ : Within 0 _)) le_rfl
    exact Within.bind (Within.emit _) fun _ => Within.pure _
  have cleared : Within (3 * 1 + 0) (do
      Coroutine.times 3 (Printer.feed p plan.clearRows)
      emit (.ejected true)
      return true) := by
    refine Within.bind (Within.times (within_feed p fits.clear) 3) fun _ => ?_
    exact Within.bind (Within.emit _) fun _ => Within.pure _
  have rest : 2 + (2 * plan.maxFeeds + 3) ≤ 2 * plan.maxFeeds + 5 := by omega
  refine Within.mono (Within.bind (within_queryPaper p) fun paper => ?_) rest
  apply Within.ite
  · exact looped.mono (by omega)
  · exact cleared.mono (by omega)

end Awaits

/-! ## What an eject comes to -/

namespace EjectPlan

/-- An eject ends after finitely many awaits, and raises only when the printer cannot be written to
or a write has just failed.  At every
moment no more feeds of the sheet are out than are allowed, and at most `ahead` more than waits
timed out.  It returns true when the sheet is reported gone, with one clearing feed behind the
others, or at once when none is seen, with three; and false only after all feeds and one more
wait. -/
theorem run_ends (plan : EjectPlan) (fits : plan.Fits) (p : PrinterId) (w : World)
    (script : List Tick) :
    (∀ before, before <+: (plan.run p w script).trace → (EjectLog.of p before).Allowed plan) ∧
      (∀ gone final rest, (plan.run p w script).ending = .returned gone final rest →
        (EjectLog.of p (plan.run p w script).trace).Ended plan gone ∧
          ((EjectLog.of p (plan.run p w script).trace).answer = some (some .present) →
            (gone = true ↔ (EjectLog.of p (plan.run p w script).trace).gone = true))) ∧
      (∀ error final rest, (plan.run p w script).ending = .raised error final rest →
        CannotWrite p final (plan.run p w script).trace error) ∧
      (2 * plan.maxFeeds + 5 ≤ script.length →
        ∀ final, (plan.run p w script).ending ≠ .waiting final) := by
  have meets := @ensures_eject p plan fits w script fun _ _ => trivial
  have within := @within_eject p plan fits w script
  unfold Run.Meets at meets
  rw [List.nil_append] at meets
  generalize plan.run p w script = outcome at meets within ⊢
  obtain ⟨trace, ending⟩ := outcome
  have always : Moments p plan trace →
      ∀ before, before <+: trace → (EjectLog.of p before).Allowed plan := by
    rintro moments before ⟨after, rfl⟩
    obtain rfl | ⟨earlier, event, rfl⟩ := List.eq_nil_or_concat' before
    · exact ⟨fun _ => rfl, nofun, nofun⟩
    · exact moments earlier event after (by rw [List.append_assoc]; rfl)
  cases ending with
  | returned gone final rest =>
      obtain ⟨log, ended, logged⟩ := meets
      obtain rfl := logged.log_eq
      refine ⟨always logged.moments, ?_, fun _ _ _ => nofun, fun _ _ => nofun⟩
      rintro _ _ _ ⟨⟩
      refine ⟨ended, fun present => ?_⟩
      cases ended with
      | blind answer read other => exact absurd (Option.some.inj (read.symm.trans present)) other
      | cleared count read absent => exact iff_of_true rfl absent
      | stuck read still => exact iff_of_false Bool.false_ne_true (still ▸ Bool.false_ne_true)
  | raised error final rest =>
      refine ⟨always meets.1, fun _ _ _ => nofun, ?_, fun _ _ => nofun⟩
      rintro _ _ _ ⟨⟩
      exact meets.2
  | waiting final =>
      refine ⟨always meets, fun _ _ _ => nofun, fun _ _ _ => nofun, fun enough => ?_⟩
      exact absurd enough (Nat.not_le.mpr within)

/-- At most three feeds, two of them ahead. -/
def short : EjectPlan := ⟨3, 120, 2, 160⟩

/-- A sheet at the sensor that leaves it in the second wait. -/
def leaving : List Tick :=
  [{}, { incidents := [.notified 0 [Printer.sheetSeen]] }, {}, {}, {}, {},
    { incidents := [.notified 0 [⟨0x06, [0x1a, 0x06, 0x88], .paper .absent⟩]] }, {}]

theorem run_ends_short :
    ∃ trace final, short.run 0 { printers := fun _ => linkedStrip } leaving =
        ⟨trace, .returned true final []⟩ ∧
      (EjectLog.of 0 trace).Ended short true ∧ (EjectLog.of 0 trace).feeds.length = 4 := by
  have returned : (short.run 0 { printers := fun _ => linkedStrip } leaving).hasReturnedOnly true =
      true := by decide +kernel
  have feeds : (EjectLog.of 0
      (short.run 0 { printers := fun _ => linkedStrip } leaving).trace).feeds.length = 4 := by
    decide +kernel
  obtain ⟨trace, final, run⟩ := Run.exists_of_hasReturnedOnly returned
  have ended := ((run_ends short ⟨by decide, by decide⟩ 0 { printers := fun _ => linkedStrip }
    leaving).2.1 true final [] (congrArg Run.ending run)).1
  rw [run] at feeds ended
  exact ⟨trace, final, run, ended, feeds⟩

end EjectPlan

end Phomemo
