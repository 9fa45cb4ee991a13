import Phomemo.Transfer

/-!
# Queries and their answers

A query writes its command and only then registers the waiter for the answer.  The answer travels
on another channel than the acknowledgement of the write, so it may come while the write is still
awaited, and then nothing waits for it.
-/

namespace Phomemo

open Async Coroutine

/-! ## Waiters -/

/-- A pending waiter that an event resolves. -/
def Waiter.Takes (waiter : Waiter) (event : DeviceEvent) : Prop :=
  waiter.result = none ∧ event.isInstance waiter.eventType = true

instance (waiter : Waiter) : DecidablePred waiter.Takes :=
  fun _ => inferInstanceAs (Decidable (_ ∧ _))

/-- The waiters after these events. -/
def resolveAll (waiters : List Waiter) (events : List DeviceEvent) : List Waiter :=
  events.foldl (fun waiters event => resolveFirst event waiters) waiters

/-- One of the events is of the class, and no pending waiter takes it. -/
def Delivered (eventType : EventClass) (waiters : List Waiter) (events : List DeviceEvent) :
    Prop :=
  ∃ before event after, events = before ++ event :: after ∧ event.isInstance eventType = true ∧
    ∀ waiter ∈ resolveAll waiters before, ¬waiter.Takes event

theorem not_delivered_nil (eventType : EventClass) (waiters : List Waiter) :
    ¬Delivered eventType waiters [] := by
  rintro ⟨before, event, after, split, -⟩
  simp at split

/-- The first event is the one, or a later one is. -/
theorem delivered_cons {eventType : EventClass} {waiters : List Waiter} {event : DeviceEvent}
    {events : List DeviceEvent} :
    Delivered eventType waiters (event :: events) ↔
      (event.isInstance eventType = true ∧ ∀ waiter ∈ waiters, ¬waiter.Takes event) ∨
        Delivered eventType (resolveFirst event waiters) events := by
  constructor
  · rintro ⟨before, other, after, split, isClass, untaken⟩
    cases before with
    | nil =>
        obtain ⟨rfl, rfl⟩ := List.cons.inj split
        exact .inl ⟨isClass, untaken⟩
    | cons first before =>
        obtain ⟨rfl, rfl⟩ := List.cons.inj split
        exact .inr ⟨before, other, after, rfl, isClass, untaken⟩
  · rintro (⟨isClass, untaken⟩ | ⟨before, other, after, rfl, isClass, untaken⟩)
    · exact ⟨[], event, events, rfl, isClass, untaken⟩
    · exact ⟨event :: before, other, after, rfl, isClass, untaken⟩

/-- An event that no waiter takes changes none of them. -/
theorem resolveFirst_untaken {event : DeviceEvent} {waiters : List Waiter}
    (untaken : ∀ waiter ∈ waiters, ¬waiter.Takes event) : resolveFirst event waiters = waiters := by
  induction waiters with
  | nil => rfl
  | cons waiter waiters ih =>
      have skipped : ¬(waiter.result.isNone = true ∧ event.isInstance waiter.eventType = true) := by
        rw [Option.isNone_iff_eq_none]
        exact untaken waiter List.mem_cons_self
      rw [resolveFirst, if_neg skipped, ih fun other member => untaken other (by simp [member])]

@[simp]
theorem resolveFirst_length (event : DeviceEvent) (waiters : List Waiter) :
    (resolveFirst event waiters).length = waiters.length := by
  induction waiters with
  | nil => rfl
  | cons waiter waiters ih =>
      rw [resolveFirst]
      split
      · rfl
      · rw [List.length_cons, List.length_cons, ih]

theorem resolveAll_length (events : List DeviceEvent) (waiters : List Waiter) :
    (resolveAll waiters events).length = waiters.length := by
  induction events generalizing waiters with
  | nil => rfl
  | cons event events ih =>
      change (resolveAll (resolveFirst event waiters) events).length = waiters.length
      rw [ih, resolveFirst_length]

/-- The last waiter gets what no other takes. -/
theorem resolveFirst_concat (event : DeviceEvent) (waiters : List Waiter) (last : Waiter) :
    resolveFirst event (waiters ++ [last]) =
      if ∃ waiter ∈ waiters, waiter.Takes event then resolveFirst event waiters ++ [last]
      else waiters ++ resolveFirst event [last] := by
  induction waiters with
  | nil => simp
  | cons waiter waiters ih =>
      by_cases takes : waiter.Takes event
      · have first : waiter.result.isNone = true ∧ event.isInstance waiter.eventType = true := by
          rw [Option.isNone_iff_eq_none]
          exact takes
        simp [resolveFirst, first, takes]
      · have skipped :
            ¬(waiter.result.isNone = true ∧ event.isInstance waiter.eventType = true) := by
          rw [Option.isNone_iff_eq_none]
          exact takes
        simp only [List.cons_append, resolveFirst, if_neg skipped, ih, List.mem_cons,
          exists_eq_or_imp, takes, false_or]
        split <;> rfl

/-- A last waiter that has its event keeps it. -/
theorem resolveAll_done (events : List DeviceEvent) (waiters : List Waiter) (eventType : EventClass)
    (taken : DeviceEvent) :
    resolveAll (waiters ++ [⟨eventType, some taken⟩]) events =
      resolveAll waiters events ++ [⟨eventType, some taken⟩] := by
  induction events generalizing waiters with
  | nil => rfl
  | cons event events ih =>
      have step : resolveFirst event (waiters ++ [⟨eventType, some taken⟩]) =
          resolveFirst event waiters ++ [⟨eventType, some taken⟩] := by
        rw [resolveFirst_concat]
        split
        · rfl
        · rename_i nobody
          have untaken : ∀ waiter ∈ waiters, ¬waiter.Takes event :=
            fun waiter member takes => nobody ⟨waiter, member, takes⟩
          rw [resolveFirst_untaken untaken]
          simp [resolveFirst]
      simp only [resolveAll, List.foldl_cons, step]
      exact ih (resolveFirst event waiters)

/-- The last waiter has got an event of its class exactly when one was delivered to it. -/
theorem resolveAll_pending (events : List DeviceEvent) (waiters : List Waiter)
    (eventType : EventClass) :
    ∃ result, resolveAll (waiters ++ [⟨eventType, none⟩]) events =
        resolveAll waiters events ++ [⟨eventType, result⟩] ∧
      (∀ event ∈ result, event ∈ events ∧ event.isInstance eventType = true) ∧
      (result.isSome ↔ Delivered eventType waiters events) := by
  induction events generalizing waiters with
  | nil => exact ⟨none, rfl, nofun, by simp [not_delivered_nil]⟩
  | cons event events ih =>
      have unfolded : ∀ others, resolveAll others (event :: events) =
          resolveAll (resolveFirst event others) events := fun others => rfl
      rw [delivered_cons]
      by_cases taken : ∃ waiter ∈ waiters, waiter.Takes event
      · obtain ⟨result, resolved, isClass, isSome⟩ := ih (resolveFirst event waiters)
        refine ⟨result, ?_, fun other given => (isClass other given).imp_left (.tail event), ?_⟩
        · rw [unfolded, unfolded, resolveFirst_concat, if_pos taken, resolved]
        · have busy : ¬∀ waiter ∈ waiters, ¬waiter.Takes event := by
            obtain ⟨waiter, member, takes⟩ := taken
            exact fun untaken => untaken waiter member takes
          rw [isSome]
          simp only [busy, and_false, false_or]
      · have untaken : ∀ waiter ∈ waiters, ¬waiter.Takes event :=
          fun waiter member takes => taken ⟨waiter, member, takes⟩
        by_cases isClass : event.isInstance eventType = true
        · have mine : resolveFirst event [⟨eventType, none⟩] = [⟨eventType, some event⟩] := by
            simp [resolveFirst, isClass]
          refine ⟨some event, ?_, ?_, ?_⟩
          · rw [unfolded, unfolded, resolveFirst_concat, if_neg taken, mine,
              resolveFirst_untaken untaken, resolveAll_done]
          · rintro other ⟨⟩
            exact ⟨List.mem_cons_self, isClass⟩
          · exact iff_of_true rfl (.inl ⟨isClass, untaken⟩)
        · have ignored : resolveFirst event [⟨eventType, none⟩] = [⟨eventType, none⟩] := by
            simp [resolveFirst, isClass]
          obtain ⟨result, resolved, allClass, isSome⟩ := ih waiters
          refine ⟨result, ?_, fun other given => (allClass other given).imp_left (.tail event), ?_⟩
          · rw [unfolded, unfolded, resolveFirst_concat, if_neg taken, ignored,
              resolveFirst_untaken untaken, resolved]
          · rw [isSome, resolveFirst_untaken untaken]
            simp [isClass]

/-! ## Notifications during an await -/

namespace World

variable {w : World}

/-- The waiters of a printer. -/
def waiters (w : World) (p : PrinterId) : List Waiter := (w.printers p).listeners.waiters

theorem notify_waiters (listeners : Listeners) (events : List DeviceEvent) :
    (listeners.notify events).waiters = resolveAll listeners.waiters events := by
  induction events generalizing listeners with
  | nil => rfl
  | cons event events ih => exact ih (listeners.dispatch event)

theorem setTransport_listeners (q p : PrinterId) (change : Transport → Transport) :
    ((w.setTransport q change).printers p).listeners = (w.printers p).listeners := by
  rw [setTransport_printers]

theorem setConnected_listeners (q p : PrinterId) (connected : Bool) :
    ((w.setConnected q connected).printers p).listeners = (w.printers p).listeners :=
  setTransport_listeners q p fun transport => { transport with connected := connected }

theorem hangUp_listeners (q p : PrinterId) :
    ((w.hangUp q).printers p).listeners = (w.printers p).listeners :=
  setTransport_listeners q p fun transport =>
    { transport with
      client := none
      connected := false
      effectiveChunkBytes := transport.profile.maxChunkBytes }

theorem startHoldTask_listeners (p : PrinterId) :
    (w.startHoldTask.1.printers p).listeners = (w.printers p).listeners := by
  unfold startHoldTask
  dsimp only
  split
  · rfl
  · rename_i held _
    split
    · exact setConnected_listeners held p false
    · rfl

/-- The events an incident notifies a printer's listeners of. -/
def notifies (incident : Incident) (p : PrinterId) : List DeviceEvent :=
  match incident with
  | .notified q events => if q = p then events else []
  | _ => []

/-- An incident changes a printer's listeners by its notifications only. -/
theorem happen_listeners (incident : Incident) (p : PrinterId) :
    ((w.happen incident).1.printers p).listeners =
      (w.printers p).listeners.notify (notifies incident p) := by
  cases incident with
  | abort => rfl
  | dropped q => exact setConnected_listeners q p false
  | notified q events =>
      by_cases here : q = p
      · subst here
        simp [happen, setListeners, setPrinter, notifies]
      · have elsewhere : ¬p = q := fun same => here same.symm
        simp [happen, setListeners, setPrinter, here, elsewhere, Listeners.notify, notifies]
  | holdExpires =>
      simp only [happen]
      split <;> rfl
  | holdStarts =>
      simp only [happen]
      split
      · rfl
      · exact startHoldTask_listeners p
  | holdEnds q =>
      simp only [happen]
      split
      · exact hangUp_listeners q p
      · rfl

theorem happenAll_listeners (incidents : List Incident) (p : PrinterId) :
    ((w.happenAll incidents).1.printers p).listeners =
      (w.printers p).listeners.notify (incidents.flatMap fun incident => notifies incident p) := by
  induction incidents generalizing w with
  | nil => rfl
  | cons incident incidents ih =>
      change (((w.happen incident).1.happenAll incidents).1.printers p).listeners = _
      rw [ih, happen_listeners, List.flatMap_cons]
      simp only [Listeners.notify, List.foldl_append]

end World

/-- The events of a printer's notifications that come during an await, in order. -/
def Tick.arrivals (answer : Tick) (p : PrinterId) : List DeviceEvent :=
  answer.incidents.flatMap fun incident => World.notifies incident p

theorem awaken_listeners (w : World) (answer : Tick) (p : PrinterId) :
    ((w.awaken answer).printers p).listeners =
      (w.printers p).listeners.notify (answer.arrivals p) :=
  World.happenAll_listeners answer.incidents p

theorem awaken_waiters (w : World) (answer : Tick) (p : PrinterId) :
    (w.awaken answer).waiters p = resolveAll (w.waiters p) (answer.arrivals p) := by
  rw [World.waiters, awaken_listeners, World.notify_waiters]
  rfl

/-! ## Runs of a query -/

/-- An await takes the next answer of the script. -/
theorem tick_cons (answer : Tick) (w : World) (script : List Tick) :
    tick w (answer :: script) =
      ⟨w.awakening answer, .returned answer (w.awaken answer) script⟩ := by
  simp [tick, bind, Coroutine.bind, suspend, Coroutine.read, Coroutine.modify, emitAll, Run.after,
    pure, Coroutine.pure, World.awakening, World.awaken]

/-- What a write that the peer acknowledges comes to. -/
theorem write_acknowledged {p : PrinterId} {data : Bytes} {w : World} {client : Client}
    {answer : Tick} (writable : Writable w p client)
    (fits : data.length ≤ (w.printers p).transport.effectiveChunkBytes)
    (acknowledged : answer.bleakError = none) (script : List Tick) :
    BleTransport.write p data w (answer :: script) =
      ⟨.wrote p client.address data :: w.awakening answer,
        .returned () (w.awaken answer) script⟩ := by
  have small : ¬(w.printers p).transport.effectiveChunkBytes < data.length := not_lt.mpr fits
  simp [BleTransport.write, bind, Coroutine.bind, Coroutine.read, emit, Run.after, writable.1,
    writable.2, small, tick_cons, acknowledged, pure, Coroutine.pure]

namespace Printer

/-- A waiter of a wait is registered. -/
def armed (w : World) (p : PrinterId) (eventType : EventClass) : World :=
  w.setListeners p fun listeners =>
    { listeners with waiters := listeners.waiters ++ [{ eventType := eventType }] }

theorem armed_waiters (w : World) (p : PrinterId) (eventType : EventClass) :
    (armed w p eventType).waiters p = w.waiters p ++ [⟨eventType, none⟩] := by
  simp [armed, World.waiters, World.setListeners, World.setPrinter]

/-- A wait gives what its waiter, registered last, got during the await. -/
theorem waitFor_run (p : PrinterId) (eventType : EventClass) (w : World) (answer : Tick)
    (script : List Tick) :
    ∃ final, waitFor p eventType w (answer :: script) =
      ⟨(armed w p eventType).awakening answer,
        .returned ((((armed w p eventType).awaken answer).waiters p)[(w.waiters p).length]?.bind
          Waiter.result) final script⟩ :=
  ⟨((armed w p eventType).awaken answer).setListeners p fun listeners =>
      { listeners with waiters := listeners.waiters.eraseIdx (w.waiters p).length },
    by simp [waitFor, bind, Coroutine.bind, Coroutine.read, Coroutine.modify, pause, Run.after,
    tick_cons, pure, Coroutine.pure, armed, World.waiters]⟩

/-- What the waiter of a wait, registered last, has got when the await ends. -/
theorem armed_awaken (p : PrinterId) (eventType : EventClass) (w : World) (answer : Tick) :
    ∃ result, (((armed w p eventType).awaken answer).waiters p)[(w.waiters p).length]? =
        some ⟨eventType, result⟩ ∧
      (∀ event ∈ result, event ∈ answer.arrivals p ∧ event.isInstance eventType = true) ∧
      (result.isSome ↔ Delivered eventType (w.waiters p) (answer.arrivals p)) := by
  obtain ⟨result, resolved, isClass, isSome⟩ :=
    resolveAll_pending (answer.arrivals p) (w.waiters p) eventType
  refine ⟨result, ?_, isClass, isSome⟩
  rw [awaken_waiters, armed_waiters, resolved,
    ← resolveAll_length (answer.arrivals p) (w.waiters p)]
  exact List.getElem?_concat_length

/-- A wait returns an event of its class that came during its await, or none. -/
theorem ensures_waitFor {p : PrinterId} {eventType : EventClass} {rely : TraceEvent → Prop}
    {post : Post PyExc World TraceEvent (Option DeviceEvent)} {w : World}
    {past : List TraceEvent} (waits : post.waiting (armed w p eventType) past)
    (answers : ∀ answer result change,
      (∀ event ∈ result, event ∈ answer.arrivals p ∧ event.isInstance eventType = true) →
      post.returned result (((armed w p eventType).awaken answer).setListeners p change)
        (past ++ (armed w p eventType).awakening answer)) :
    Ensures rely (waitFor p eventType) post w past := by
  apply Ensures.read_bind
  apply Ensures.modify_bind
  apply Ensures.bind
  refine ensures_tick_bind (by exact waits) fun answer _ => ?_
  obtain ⟨result, got, isClass, -⟩ := armed_awaken p eventType w answer
  apply Ensures.pure
  apply Ensures.read_bind
  apply Ensures.modify_bind
  apply Ensures.pure
  apply answers
  intro event given
  apply isClass
  change event ∈ (((armed w p eventType).awaken answer).waiters p)[(w.waiters p).length]?.bind
    Waiter.result at given
  rwa [got] at given

theorem waitFor_answered (p : PrinterId) (eventType : EventClass) (w : World) (answer : Tick)
    (script : List Tick) :
    ∃ trace final result,
      waitFor p eventType w (answer :: script) = ⟨trace, .returned result final script⟩ ∧
      (∀ event ∈ result, event.isInstance eventType = true) ∧
      (result.isSome ↔ Delivered eventType (w.waiters p) (answer.arrivals p)) := by
  obtain ⟨result, got, isClass, isSome⟩ := armed_awaken p eventType w answer
  obtain ⟨final, ran⟩ := waitFor_run p eventType w answer script
  rw [got] at ran
  exact ⟨_, final, result, ran, fun event given => (isClass event given).2, isSome⟩

/-- A query returns its answer exactly when the answer does not come while the write is awaited, or
comes again in the wait after it. -/
theorem query_answered_iff (p : PrinterId) (command : QueryCommand) (eventType : EventClass)
    (w : World) (client : Client) (written waited : Tick) (rest : List Tick)
    (writable : Writable w p client)
    (fits : command.bytes.length ≤ (w.printers p).transport.effectiveChunkBytes)
    (acknowledged : written.bleakError = none) :
    ∃ trace final result,
      query p command eventType w (written :: waited :: rest) =
        ⟨trace, .returned result final rest⟩ ∧
      ((Delivered eventType (w.waiters p) (written.arrivals p) ∨
            Delivered eventType ((w.awaken written).waiters p) (waited.arrivals p) →
          ∃ event, result = some event ∧ event.isInstance eventType = true) ↔
        (Delivered eventType (w.waiters p) (written.arrivals p) →
          Delivered eventType ((w.awaken written).waiters p) (waited.arrivals p))) := by
  obtain ⟨trace, final, result, ran, isClass, isSome⟩ :=
    waitFor_answered p eventType (w.awaken written) waited rest
  refine ⟨.wrote p client.address command.bytes :: w.awakening written ++ trace, final, result,
    ?_, ?_⟩
  · change Coroutine.bind _ _ _ _ = _
    rw [Coroutine.bind, write_acknowledged writable fits acknowledged]
    dsimp only
    rw [ran]
    rfl
  · have answered : (∃ event, result = some event ∧ event.isInstance eventType = true) ↔
        Delivered eventType ((w.awaken written).waiters p) (waited.arrivals p) := by
      rw [← isSome, Option.isSome_iff_exists]
      constructor
      · rintro ⟨event, rfl, -⟩
        exact ⟨event, rfl⟩
      · rintro ⟨event, rfl⟩
        exact ⟨event, rfl, isClass event rfl⟩
    rw [answered]
    constructor
    · exact fun all early => all (.inl early)
    · rintro again (early | late)
      · exact again early
      · exact late

/-- A sheet is seen under the sensor. -/
def sheetSeen : DeviceEvent where
  kind := 0x06
  raw := [0x1a, 0x06, 0x89]
  data := .paper .present

/-- The answer comes in the wait, a stray one of another class during the write. -/
theorem query_answered_iff_sheet :
    ∃ trace final result,
      query 0 .paperState .paperEvent { printers := fun _ => linkedStrip }
          [{ incidents := [.notified 0 [⟨0x0f, [0x1a, 0x0f, 0x0c], .motorStop⟩]] },
            { incidents := [.notified 0 [sheetSeen]] }] =
        ⟨trace, .returned result final []⟩ ∧
      ((Delivered .paperEvent [] [⟨0x0f, [0x1a, 0x0f, 0x0c], .motorStop⟩] ∨
            Delivered .paperEvent [] [sheetSeen] →
          ∃ event, result = some event ∧ event.isInstance .paperEvent = true) ↔
        (Delivered .paperEvent [] [⟨0x0f, [0x1a, 0x0f, 0x0c], .motorStop⟩] →
          Delivered .paperEvent [] [sheetSeen])) :=
  query_answered_iff 0 .paperState .paperEvent { printers := fun _ => linkedStrip } ⟨0, "S"⟩
    { incidents := [.notified 0 [⟨0x0f, [0x1a, 0x0f, 0x0c], .motorStop⟩]] }
    { incidents := [.notified 0 [sheetSeen]] } [] ⟨rfl, rfl⟩ (by decide) rfl

/-- The answer comes while the write is awaited; the query waits on and gives nothing. -/
theorem query_misses_early_answer :
    Delivered .paperEvent [] [sheetSeen] ∧
      ∃ trace final,
        query 0 .paperState .paperEvent { printers := fun _ => linkedStrip }
            [{ incidents := [.notified 0 [sheetSeen]] }, { elapsed := 1000 }] =
          ⟨trace, .returned none final []⟩ :=
  ⟨⟨[], sheetSeen, [], rfl, rfl, nofun⟩, _, _, rfl⟩

end Printer

end Phomemo
