import Phomemo.Notification

/-!
# Delivery of events

Callbacks and waiters of one printer come and go between the events.  An event reaches every
callback, and at most one waiter: the earliest that is pending and waits for its class.  A waiter
that is done stays listed until its task runs on.
-/

namespace Phomemo

namespace Dispatch

/-- The future of a waiter. -/
inductive Future where
  | pending
  | result (event : DeviceEvent)
  | cancelled
  deriving DecidableEq, Repr

/-- An entry of `_waiters`; futures are numbered as they are created. -/
structure Entry where
  eventType : EventClass
  future : Nat
  deriving DecidableEq, Repr

/-- One call of a callback, and the exception it ended with. -/
structure Call (Callback : Type) where
  callback : Callback
  event : DeviceEvent
  raised : Option PyExc

/-- The listeners of a printer, every future created so far and every call made so far. -/
structure State (Callback : Type) where
  callbacks : List Callback := []
  waiters : List Entry := []
  futures : List Future := []
  calls : List (Call Callback) := []

/-- What a callback does with an event, after the calls so far. -/
abbrev Behaviour (Callback : Type) :=
  List (Call Callback) → Callback → DeviceEvent → Except PyExc Unit

/-- What happens to the listeners. -/
inductive Step (Callback : Type) where
  /-- `on_event`. -/
  | onEvent (callback : Callback)
  | removeCallback (callback : Callback)
  /-- `_wait_for` lists a waiter. -/
  | waitFor (eventType : EventClass)
  /-- `asyncio.wait_for` gives up on a future. -/
  | timeout (future : Nat)
  /-- The `finally` of `_wait_for`. -/
  | remove (entry : Entry)
  | event (event : DeviceEvent)

/-- The first listed waiter that is not done and waits for the class gets the event. -/
def resolve (event : DeviceEvent) : List Entry → List Future → List Future
  | [], futures => futures
  | entry :: entries, futures =>
      if futures[entry.future]? = some .pending ∧ event.isInstance entry.eventType then
        futures.set entry.future (.result event)
      else
        resolve event entries futures

variable {Callback : Type}

/-- Call a callback; what it raises is logged. -/
def callOne (behaviour : Behaviour Callback) (event : DeviceEvent) (calls : List (Call Callback))
    (callback : Callback) : List (Call Callback) :=
  match behaviour calls callback event with
  | .ok _ => calls ++ [⟨callback, event, none⟩]
  | .error exc => calls ++ [⟨callback, event, some exc⟩]

/-- `_dispatch_event`. -/
def dispatchEvent (behaviour : Behaviour Callback) (state : State Callback) (event : DeviceEvent) :
    State Callback :=
  { state with
    calls := state.callbacks.foldl (callOne behaviour event) state.calls
    futures := resolve event state.waiters state.futures }

/-- `_on_notification`. -/
def onNotification (behaviour : Behaviour Callback) (state : State Callback) (data : Bytes) :
    State Callback :=
  (parseNotification data).foldl (dispatchEvent behaviour) state

/-- Cancelling a future that is done changes nothing. -/
def cancel (futures : List Future) (future : Nat) : List Future :=
  if futures[future]? = some .pending then futures.set future .cancelled else futures

/-- The listeners after a step. -/
def apply [DecidableEq Callback] (behaviour : Behaviour Callback) (state : State Callback) :
    Step Callback → State Callback
  | .onEvent callback => { state with callbacks := state.callbacks ++ [callback] }
  | .removeCallback callback => { state with callbacks := state.callbacks.erase callback }
  | .waitFor eventType =>
      { state with
        waiters := state.waiters ++ [⟨eventType, state.futures.length⟩]
        futures := state.futures ++ [.pending] }
  | .timeout future => { state with futures := cancel state.futures future }
  | .remove entry => { state with waiters := state.waiters.erase entry }
  | .event event => dispatchEvent behaviour state event

/-- The listeners after some steps. -/
def run [DecidableEq Callback] (behaviour : Behaviour Callback) (state : State Callback)
    (steps : List (Step Callback)) : State Callback :=
  steps.foldl (apply behaviour) state

/-- The callbacks that are listed after a step. -/
def listCallback [DecidableEq Callback] (listed : List Callback) :
    Step Callback → List Callback
  | .onEvent callback => listed ++ [callback]
  | .removeCallback callback => listed.erase callback
  | _ => listed

/-- The waiters that are listed after a step, and how many were registered so far. -/
def listWaiter (listed : List Entry × Nat) : Step Callback → List Entry × Nat
  | .waitFor eventType => (listed.1 ++ [⟨eventType, listed.2⟩], listed.2 + 1)
  | .remove entry => (listed.1.erase entry, listed.2)
  | _ => listed

/-- What the callbacks are to be given: every event goes to all that are listed when it comes. -/
def deliveries [DecidableEq Callback] (listed : List Callback) :
    List (Step Callback) → List (Callback × DeviceEvent)
  | [] => []
  | .event event :: steps =>
      listed.map (fun callback => (callback, event)) ++ deliveries listed steps
  | step :: steps => deliveries (listCallback listed step) steps

/-- Which callback was given which event. -/
def given (calls : List (Call Callback)) : List (Callback × DeviceEvent) :=
  calls.map fun call => (call.callback, call.event)

/-- A waiter that is not done waits for the class of the event. -/
def State.Takes (state : State Callback) (event : DeviceEvent) (entry : Entry) : Prop :=
  state.futures[entry.future]? = some .pending ∧ event.isInstance entry.eventType = true

/-- A listed waiter waits for the class of the event, and no earlier one takes it. -/
def State.Unclaimed (state : State Callback) (entry : Entry) (event : DeviceEvent) : Prop :=
  entry ∈ state.waiters ∧ event.isInstance entry.eventType = true ∧
    ∀ other ∈ state.waiters, other.future < entry.future → ¬state.Takes event other

/-- Waiters are listed in the order of their registration. -/
structure State.Ordered (state : State Callback) : Prop where
  increasing : state.waiters.Pairwise fun first second => first.future < second.future
  created : ∀ entry ∈ state.waiters, entry.future < state.futures.length

section Events

variable {behaviour : Behaviour Callback} {state : State Callback} {event : DeviceEvent}

theorem given_callOne (behaviour : Behaviour Callback) (event : DeviceEvent)
    (calls : List (Call Callback)) (callback : Callback) :
    given (callOne behaviour event calls callback) = given calls ++ [(callback, event)] := by
  unfold callOne
  cases behaviour calls callback event with
  | error exc => exact List.map_append
  | ok value => exact List.map_append

/-- Every callback is called once with the event, in order. -/
theorem given_foldl_callOne (behaviour : Behaviour Callback) (event : DeviceEvent)
    (callbacks : List Callback) (calls : List (Call Callback)) :
    given (callbacks.foldl (callOne behaviour event) calls) =
      given calls ++ callbacks.map fun callback => (callback, event) := by
  induction callbacks generalizing calls with
  | nil => simp
  | cons callback callbacks ih =>
      rw [List.foldl_cons, ih, given_callOne, List.append_assoc]
      rfl

/-- The calls of the events of one notification. -/
theorem given_onNotification (behaviour : Behaviour Callback) (state : State Callback)
    (data : Bytes) :
    given (onNotification behaviour state data).calls =
      given state.calls ++ (parseNotification data).flatMap fun event =>
        state.callbacks.map fun callback => (callback, event) := by
  unfold onNotification
  induction parseNotification data generalizing state with
  | nil => simp
  | cons event events ih =>
      have one : given (dispatchEvent behaviour state event).calls =
          given state.calls ++ state.callbacks.map fun callback => (callback, event) :=
        given_foldl_callOne behaviour event state.callbacks state.calls
      rw [List.foldl_cons, ih, one, List.append_assoc, List.flatMap_cons]
      rfl

/-- What one event does to the futures. -/
theorem resolve_cases (event : DeviceEvent) (waiters : List Entry) (futures : List Future) :
    (∃ before entry after, waiters = before ++ entry :: after ∧
        (futures[entry.future]? = some .pending ∧ event.isInstance entry.eventType = true) ∧
        (∀ other ∈ before,
          ¬(futures[other.future]? = some .pending ∧ event.isInstance other.eventType = true)) ∧
        resolve event waiters futures = futures.set entry.future (.result event)) ∨
      ((∀ entry ∈ waiters,
          ¬(futures[entry.future]? = some .pending ∧ event.isInstance entry.eventType = true)) ∧
        resolve event waiters futures = futures) := by
  induction waiters with
  | nil => exact Or.inr ⟨by simp, rfl⟩
  | cons first waiters ih =>
      by_cases takes :
          futures[first.future]? = some .pending ∧ event.isInstance first.eventType = true
      · exact Or.inl ⟨[], first, waiters, rfl, takes, by simp, if_pos takes⟩
      · have skipped : resolve event (first :: waiters) futures = resolve event waiters futures :=
          if_neg takes
        rw [skipped]
        obtain ⟨before, entry, after, rfl, taker, untaken, resolved⟩ | ⟨untaken, resolved⟩ := ih
        · refine Or.inl ⟨first :: before, entry, after, rfl, taker, ?_, resolved⟩
          exact List.forall_mem_cons.mpr ⟨takes, untaken⟩
        · exact Or.inr ⟨List.forall_mem_cons.mpr ⟨takes, untaken⟩, resolved⟩

/-- An event resolves the earliest waiter that takes it, or nothing. -/
theorem State.Ordered.dispatched (ordered : state.Ordered) (behaviour : Behaviour Callback)
    (event : DeviceEvent) :
    (∃ entry ∈ state.waiters, state.Takes event entry ∧
        (∀ other ∈ state.waiters, state.Takes event other → entry.future ≤ other.future) ∧
        (dispatchEvent behaviour state event).futures =
          state.futures.set entry.future (.result event)) ∨
      ((∀ entry ∈ state.waiters, ¬state.Takes event entry) ∧
        (dispatchEvent behaviour state event).futures = state.futures) := by
  obtain ⟨before, entry, after, split, takes, untaken, resolved⟩ | untaken :=
    resolve_cases event state.waiters state.futures
  · refine Or.inl ⟨entry, by rw [split]; simp, takes, fun other listed taker => ?_, resolved⟩
    have increasing := ordered.increasing
    rw [split] at increasing listed
    obtain earlier | rfl | later : other ∈ before ∨ other = entry ∨ other ∈ after := by
      simpa using listed
    · exact absurd taker (untaken other earlier)
    · exact le_rfl
    · exact (List.rel_of_pairwise_cons (List.pairwise_append.mp increasing).2.1 later).le
  · exact Or.inr untaken

theorem ordered_initial : ({} : State Callback).Ordered :=
  ⟨List.Pairwise.nil, by simp⟩

/-- The waiter is not done, and no other entry has its future. -/
structure State.Waits (state : State Callback) (entry : Entry) : Prop where
  pending : state.futures[entry.future]? = some .pending
  own : ∀ other ∈ state.waiters, other.future = entry.future → other = entry

/-- An unclaimed event resolves the waiter. -/
theorem State.Waits.taken {entry : Entry} {event : DeviceEvent} (waits : state.Waits entry)
    (ordered : state.Ordered) (unclaimed : state.Unclaimed entry event)
    (behaviour : Behaviour Callback) :
    (dispatchEvent behaviour state event).futures[entry.future]? = some (.result event) := by
  obtain ⟨listed, isInstance, nobody⟩ := unclaimed
  have created : entry.future < state.futures.length := ordered.created entry listed
  obtain ⟨taker, member, takes, first, resolved⟩ | ⟨untaken, -⟩ :=
    ordered.dispatched behaviour event
  · have same : taker.future = entry.future := by
      refine le_antisymm (first entry listed ⟨waits.pending, isInstance⟩) (not_lt.mp ?_)
      exact fun earlier => nobody taker member earlier takes
    rw [resolved, same, List.getElem?_set_self created]
  · exact absurd ⟨waits.pending, isInstance⟩ (untaken entry listed)

/-- An event that is claimed, or of another class, leaves the waiter pending. -/
theorem State.Waits.passed {entry : Entry} {event : DeviceEvent} (waits : state.Waits entry)
    (ordered : state.Ordered) (claimed : ¬state.Unclaimed entry event)
    (behaviour : Behaviour Callback) : (dispatchEvent behaviour state event).Waits entry := by
  refine ⟨?_, waits.own⟩
  obtain ⟨taker, member, takes, first, resolved⟩ | ⟨-, resolved⟩ :=
    ordered.dispatched behaviour event
  · have different : taker.future ≠ entry.future := by
      intro same
      obtain rfl := waits.own taker member same
      refine claimed ⟨member, takes.2, fun other listed earlier taken => ?_⟩
      exact absurd (first other listed taken) (not_le.mpr earlier)
    rw [resolved, List.getElem?_set_ne different, waits.pending]
  · rw [resolved, waits.pending]

end Events

section Runs

variable [DecidableEq Callback] {behaviour : Behaviour Callback} {state : State Callback}

@[simp]
theorem run_nil (behaviour : Behaviour Callback) (state : State Callback) :
    run behaviour state [] = state :=
  rfl

@[simp]
theorem run_cons (behaviour : Behaviour Callback) (state : State Callback)
    (step : Step Callback) (steps : List (Step Callback)) :
    run behaviour state (step :: steps) = run behaviour (apply behaviour state step) steps :=
  rfl

/-- A notification is a series of events. -/
theorem onNotification_eq_run (behaviour : Behaviour Callback) (state : State Callback)
    (data : Bytes) :
    onNotification behaviour state data =
      run behaviour state ((parseNotification data).map Step.event) := by
  unfold onNotification run
  rw [List.foldl_map]
  rfl

theorem cancel_length (futures : List Future) (future : Nat) :
    (cancel futures future).length = futures.length := by
  unfold cancel
  split
  · exact List.length_set
  · rfl

theorem resolve_length (event : DeviceEvent) (waiters : List Entry) (futures : List Future) :
    (resolve event waiters futures).length = futures.length := by
  obtain ⟨before, entry, after, -, -, -, resolved⟩ | ⟨-, resolved⟩ :=
    resolve_cases event waiters futures
  · rw [resolved, List.length_set]
  · rw [resolved]

theorem State.Ordered.apply (ordered : state.Ordered) (behaviour : Behaviour Callback)
    (step : Step Callback) : (apply behaviour state step).Ordered := by
  obtain ⟨increasing, created⟩ := ordered
  cases step with
  | onEvent callback => exact ⟨increasing, created⟩
  | removeCallback callback => exact ⟨increasing, created⟩
  | waitFor eventType =>
      constructor
      · refine List.pairwise_append.mpr ⟨increasing, List.pairwise_singleton _ _, ?_⟩
        intro entry listed new same
        obtain rfl := List.mem_singleton.mp same
        exact created entry listed
      · intro entry listed
        simp only [Dispatch.apply, List.mem_append, List.mem_singleton, List.length_append,
          List.length_singleton] at listed ⊢
        obtain listed | rfl := listed
        · exact Nat.lt_succ_of_lt (created entry listed)
        · exact Nat.lt_succ_self _
  | timeout future =>
      refine ⟨increasing, fun entry listed => ?_⟩
      simp only [Dispatch.apply, cancel_length]
      exact created entry listed
  | remove entry =>
      exact ⟨increasing.sublist List.erase_sublist,
        fun other listed => created other (List.mem_of_mem_erase listed)⟩
  | event event =>
      refine ⟨increasing, fun entry listed => ?_⟩
      simp only [Dispatch.apply, dispatchEvent, resolve_length]
      exact created entry listed

theorem State.Ordered.run (ordered : state.Ordered) (behaviour : Behaviour Callback)
    (steps : List (Step Callback)) : (run behaviour state steps).Ordered := by
  induction steps generalizing state with
  | nil => exact ordered
  | cons step steps ih => exact ih (ordered.apply behaviour step)

/-- A future that is done stays as it is. -/
theorem apply_done {future : Nat} {outcome : Future} (behaviour : Behaviour Callback)
    (done : state.futures[future]? = some outcome) (decided : outcome ≠ .pending)
    (step : Step Callback) : (apply behaviour state step).futures[future]? = some outcome := by
  have other : ∀ changed : Nat, state.futures[changed]? = some .pending → changed ≠ future := by
    rintro changed pending rfl
    exact decided (Option.some.inj (done.symm.trans pending))
  cases step with
  | onEvent callback => exact done
  | removeCallback callback => exact done
  | waitFor eventType =>
      have old : future < state.futures.length := (List.getElem?_eq_some_iff.mp done).1
      simp only [Dispatch.apply]
      rw [List.getElem?_append_left old, done]
  | timeout changed =>
      simp only [Dispatch.apply, cancel]
      split
      · rename_i pending
        rw [List.getElem?_set_ne (other changed pending), done]
      · exact done
  | remove entry => exact done
  | event event =>
      simp only [Dispatch.apply, dispatchEvent]
      obtain ⟨before, entry, after, -, ⟨pending, -⟩, -, resolved⟩ | ⟨-, resolved⟩ :=
        resolve_cases event state.waiters state.futures
      · rw [resolved, List.getElem?_set_ne (other _ pending), done]
      · rw [resolved, done]

theorem run_done {future : Nat} {outcome : Future} (behaviour : Behaviour Callback)
    (done : state.futures[future]? = some outcome) (decided : outcome ≠ .pending)
    (steps : List (Step Callback)) :
    (run behaviour state steps).futures[future]? = some outcome := by
  induction steps generalizing state with
  | nil => exact done
  | cons step steps ih => exact ih (apply_done behaviour done decided step)

/-- A future whose waiter is given up never takes an event afterwards. -/
theorem run_timeout {future : Nat} {outcome : Future} (behaviour : Behaviour Callback)
    (created : state.futures[future]? = some outcome) (steps : List (Step Callback)) :
    (run behaviour state (.timeout future :: steps)).futures[future]? =
      some (if outcome = .pending then .cancelled else outcome) := by
  rw [run_cons]
  refine run_done behaviour ?_ (by split <;> simp_all) steps
  simp only [Dispatch.apply, cancel]
  split
  · rename_i pending
    obtain rfl := Option.some.inj (created.symm.trans pending)
    rw [if_pos rfl, List.getElem?_set_self (List.getElem?_eq_some_iff.mp created).1]
  · rename_i pending
    have decided : outcome ≠ .pending := fun same => pending (same ▸ created)
    rw [if_neg decided, created]

/-- What leaves a waiter pending: every step but its timeout and an unclaimed event. -/
theorem State.Waits.apply {entry : Entry} (waits : state.Waits entry) (ordered : state.Ordered)
    (behaviour : Behaviour Callback) {step : Step Callback}
    (kept : step ≠ .timeout entry.future)
    (claimed : ∀ event, step = .event event → ¬state.Unclaimed entry event) :
    (apply behaviour state step).Waits entry := by
  have created : entry.future < state.futures.length :=
    (List.getElem?_eq_some_iff.mp waits.pending).1
  cases step with
  | onEvent callback => exact ⟨waits.pending, waits.own⟩
  | removeCallback callback => exact ⟨waits.pending, waits.own⟩
  | waitFor eventType =>
      constructor
      · simp only [Dispatch.apply]
        rw [List.getElem?_append_left created, waits.pending]
      · intro other listed same
        simp only [Dispatch.apply, List.mem_append, List.mem_singleton] at listed
        obtain listed | rfl := listed
        · exact waits.own other listed same
        · exact absurd same created.ne'
  | timeout future =>
      have different : future ≠ entry.future := fun same => kept (same ▸ rfl)
      refine ⟨?_, waits.own⟩
      simp only [Dispatch.apply, cancel]
      split
      · rw [List.getElem?_set_ne different, waits.pending]
      · exact waits.pending
  | remove removed =>
      exact ⟨waits.pending, fun other listed => waits.own other (List.mem_of_mem_erase listed)⟩
  | event event => exact waits.passed ordered (claimed event rfl) behaviour

/-- The event of the waiter came in these steps: before it the waiter was not given up and every
event of its class was claimed. -/
def FirstUnclaimed (behaviour : Behaviour Callback) (state : State Callback) (entry : Entry)
    (event : DeviceEvent) (steps : List (Step Callback)) : Prop :=
  ∃ before after, steps = before ++ .event event :: after ∧
    .timeout entry.future ∉ before ∧ (run behaviour state before).Unclaimed entry event ∧
    ∀ earlier other later, before = earlier ++ .event other :: later →
      ¬(run behaviour state earlier).Unclaimed entry other

/-- A first step that is not the event of the waiter. -/
theorem firstUnclaimed_cons {entry : Entry} {event : DeviceEvent} {step : Step Callback}
    {steps : List (Step Callback)} (kept : step ≠ .timeout entry.future)
    (claimed : ∀ other, step = .event other → ¬state.Unclaimed entry other) :
    FirstUnclaimed behaviour state entry event (step :: steps) ↔
      FirstUnclaimed behaviour (apply behaviour state step) entry event steps := by
  constructor
  · rintro ⟨before, after, split, listening, unclaimed, first⟩
    cases before with
    | nil =>
        obtain ⟨rfl, -⟩ := List.cons.inj split
        exact absurd unclaimed (claimed event rfl)
    | cons head before =>
        obtain ⟨rfl, rfl⟩ := List.cons.inj split
        refine ⟨before, after, rfl, fun given => listening (List.mem_cons_of_mem _ given),
          unclaimed, ?_⟩
        rintro earlier other later rfl
        exact first (step :: earlier) other later rfl
  · rintro ⟨before, after, rfl, listening, unclaimed, first⟩
    refine ⟨step :: before, after, rfl, ?_, unclaimed, ?_⟩
    · rintro (_ | ⟨_, given⟩)
      · exact kept rfl
      · exact listening given
    · intro earlier other later split
      cases earlier with
      | nil =>
          obtain ⟨rfl, -⟩ := List.cons.inj split
          exact claimed other rfl
      | cons head earlier =>
          obtain ⟨rfl, rfl⟩ := List.cons.inj split
          exact first earlier other later rfl

/-- A pending waiter is resolved by the first unclaimed event of its class. -/
theorem State.Waits.resolved_iff {entry : Entry} {event : DeviceEvent}
    (waits : state.Waits entry) (ordered : state.Ordered) (steps : List (Step Callback)) :
    (run behaviour state steps).futures[entry.future]? = some (.result event) ↔
      FirstUnclaimed behaviour state entry event steps := by
  induction steps generalizing state with
  | nil =>
      rw [run_nil, waits.pending]
      constructor
      · intro impossible
        cases impossible
      · rintro ⟨before, after, split, -⟩
        simp at split
  | cons step steps ih =>
      by_cases given : step = .timeout entry.future
      · obtain rfl := given
        rw [run_timeout behaviour waits.pending, if_pos rfl]
        constructor
        · intro impossible
          cases impossible
        · rintro ⟨before, after, split, listening, -⟩
          cases before with
          | nil => cases (List.cons.inj split).1
          | cons head before =>
              obtain ⟨rfl, -⟩ := List.cons.inj split
              exact absurd List.mem_cons_self listening
      · by_cases claimed : ∀ other, step = .event other → ¬state.Unclaimed entry other
        · rw [firstUnclaimed_cons given claimed, run_cons]
          exact ih (waits.apply ordered behaviour given claimed) (ordered.apply behaviour step)
        · push Not at claimed
          obtain ⟨other, rfl, unclaimed⟩ := claimed
          have done := run_done behaviour (waits.taken ordered unclaimed behaviour) (by simp) steps
          rw [run_cons, Dispatch.apply, done]
          constructor
          · intro same
            obtain rfl : other = event := by simpa using same
            refine ⟨[], steps, rfl, by simp, unclaimed, ?_⟩
            intro earlier _ later split
            simp at split
          · rintro ⟨before, after, split, -, -, first⟩
            cases before with
            | nil =>
                obtain ⟨same, -⟩ := List.cons.inj split
                obtain rfl := Step.event.inj same
                rfl
            | cons head before =>
                obtain ⟨rfl, -⟩ := List.cons.inj split
                exact absurd unclaimed (first [] other before rfl)

/-- A waiter that was just registered. -/
theorem State.Ordered.waits_new (ordered : state.Ordered) (behaviour : Behaviour Callback)
    (eventType : EventClass) :
    (Dispatch.apply behaviour state (.waitFor eventType)).Waits
      ⟨eventType, state.futures.length⟩ := by
  constructor
  · simp [Dispatch.apply]
  · intro other listed same
    simp only [Dispatch.apply, List.mem_append, List.mem_singleton] at listed
    obtain listed | rfl := listed
    · exact absurd same (ordered.created other listed).ne
    · rfl

/-- A pending waiter is given up in these steps: it timed out before its event came. -/
def GivenUp (behaviour : Behaviour Callback) (state : State Callback) (entry : Entry)
    (steps : List (Step Callback)) : Prop :=
  ∃ before after, steps = before ++ .timeout entry.future :: after ∧
    ∀ event, ¬FirstUnclaimed behaviour state entry event before

theorem not_firstUnclaimed_nil (behaviour : Behaviour Callback) (state : State Callback)
    (entry : Entry) (event : DeviceEvent) : ¬FirstUnclaimed behaviour state entry event [] := by
  rintro ⟨before, after, split, -⟩
  simp at split

/-- A first step that is neither the timeout nor the event of the waiter. -/
theorem givenUp_cons {entry : Entry} {step : Step Callback} {steps : List (Step Callback)}
    (kept : step ≠ .timeout entry.future)
    (claimed : ∀ other, step = .event other → ¬state.Unclaimed entry other) :
    GivenUp behaviour state entry (step :: steps) ↔
      GivenUp behaviour (apply behaviour state step) entry steps := by
  constructor
  · rintro ⟨before, after, split, unresolved⟩
    cases before with
    | nil => exact absurd (List.cons.inj split).1 kept
    | cons head before =>
        obtain ⟨rfl, rfl⟩ := List.cons.inj split
        refine ⟨before, after, rfl, fun event resolved => unresolved event ?_⟩
        exact (firstUnclaimed_cons kept claimed).mpr resolved
  · rintro ⟨before, after, rfl, unresolved⟩
    refine ⟨step :: before, after, rfl, fun event resolved => unresolved event ?_⟩
    exact (firstUnclaimed_cons kept claimed).mp resolved

/-- A pending waiter is cancelled by its timeout, unless its event came before. -/
theorem State.Waits.cancelled_iff {entry : Entry} (waits : state.Waits entry)
    (ordered : state.Ordered) (steps : List (Step Callback)) :
    (run behaviour state steps).futures[entry.future]? = some .cancelled ↔
      GivenUp behaviour state entry steps := by
  induction steps generalizing state with
  | nil =>
      rw [run_nil, waits.pending]
      constructor
      · intro impossible
        cases impossible
      · rintro ⟨before, after, split, -⟩
        simp at split
  | cons step steps ih =>
      by_cases given : step = .timeout entry.future
      · obtain rfl := given
        rw [run_timeout behaviour waits.pending, if_pos rfl]
        exact iff_of_true rfl ⟨[], steps, rfl, not_firstUnclaimed_nil behaviour state entry⟩
      · by_cases claimed : ∀ other, step = .event other → ¬state.Unclaimed entry other
        · rw [givenUp_cons given claimed, run_cons]
          exact ih (waits.apply ordered behaviour given claimed) (ordered.apply behaviour step)
        · push Not at claimed
          obtain ⟨other, rfl, unclaimed⟩ := claimed
          have done := run_done behaviour (waits.taken ordered unclaimed behaviour) (by simp) steps
          rw [run_cons, Dispatch.apply, done]
          constructor
          · intro impossible
            cases impossible
          · rintro ⟨before, after, split, unresolved⟩
            cases before with
            | nil => exact absurd (List.cons.inj split).1 given
            | cons head before =>
                obtain ⟨rfl, rfl⟩ := List.cons.inj split
                refine absurd ⟨[], before, rfl, List.not_mem_nil, unclaimed, ?_⟩ (unresolved other)
                intro earlier _ later split
                simp at split

/-! ## What is listed -/

theorem run_callbacks (behaviour : Behaviour Callback) (state : State Callback)
    (steps : List (Step Callback)) :
    (run behaviour state steps).callbacks = steps.foldl listCallback state.callbacks := by
  induction steps generalizing state with
  | nil => rfl
  | cons step steps ih =>
      have listed : (apply behaviour state step).callbacks = listCallback state.callbacks step := by
        cases step <;> rfl
      rw [run_cons, ih, listed, List.foldl_cons]

theorem run_waiters (behaviour : Behaviour Callback) (state : State Callback)
    (steps : List (Step Callback)) :
    ((run behaviour state steps).waiters, (run behaviour state steps).futures.length) =
      steps.foldl listWaiter (state.waiters, state.futures.length) := by
  induction steps generalizing state with
  | nil => rfl
  | cons step steps ih =>
      have listed : ((apply behaviour state step).waiters,
          (apply behaviour state step).futures.length) =
            listWaiter (state.waiters, state.futures.length) step := by
        cases step with
        | waitFor eventType => simp [Dispatch.apply, listWaiter]
        | timeout future => simp [Dispatch.apply, listWaiter, cancel_length]
        | event event => simp [Dispatch.apply, dispatchEvent, listWaiter, resolve_length]
        | onEvent callback => rfl
        | removeCallback callback => rfl
        | remove entry => rfl
      rw [run_cons, ih, listed, List.foldl_cons]

/-- Futures are kept. -/
theorem length_le_run (behaviour : Behaviour Callback) (state : State Callback)
    (steps : List (Step Callback)) :
    state.futures.length ≤ (run behaviour state steps).futures.length := by
  induction steps generalizing state with
  | nil => exact le_rfl
  | cons step steps ih =>
      refine le_trans ?_ (ih (apply behaviour state step))
      cases step with
      | waitFor eventType => simp [Dispatch.apply]
      | timeout future => exact (cancel_length _ _).ge
      | event event => exact (resolve_length _ _ _).ge
      | onEvent callback => exact le_rfl
      | removeCallback callback => exact le_rfl
      | remove entry => exact le_rfl

theorem run_calls (behaviour : Behaviour Callback) (state : State Callback)
    (steps : List (Step Callback)) :
    given (run behaviour state steps).calls =
      given state.calls ++ deliveries state.callbacks steps := by
  induction steps generalizing state with
  | nil => simp [deliveries]
  | cons step steps ih =>
      rw [run_cons, ih]
      cases step with
      | event event =>
          simp only [Dispatch.apply, dispatchEvent, deliveries]
          rw [given_foldl_callOne, List.append_assoc]
      | onEvent callback => rfl
      | removeCallback callback => rfl
      | waitFor eventType => rfl
      | timeout future => rfl
      | remove entry => rfl

/-- How events are delivered from a state on. -/
structure Delivers (behaviour : Behaviour Callback) (state : State Callback) : Prop where
  /-- The events of a notification come one after another. -/
  notified : ∀ data, onNotification behaviour state data =
    run behaviour state ((parseNotification data).map Step.event)
  callbacks : ∀ data,
    given (onNotification behaviour state data).calls =
      given state.calls ++ (parseNotification data).flatMap fun event =>
        state.callbacks.map fun callback => (callback, event)
  waiters : ∀ event,
    (∃ entry ∈ state.waiters, state.Takes event entry ∧
        (∀ other ∈ state.waiters, state.Takes event other → entry.future ≤ other.future) ∧
        (dispatchEvent behaviour state event).futures =
          state.futures.set entry.future (.result event)) ∨
      ((∀ entry ∈ state.waiters, ¬state.Takes event entry) ∧
        (dispatchEvent behaviour state event).futures = state.futures)
  /-- A new waiter gets the first event of its class that no earlier one takes, is given up by a
  timeout before that, and is pending as long as neither has come. -/
  resolved : ∀ eventType steps event,
    (run behaviour state (.waitFor eventType :: steps)).futures[state.futures.length]? =
        some (.result event) ↔
      FirstUnclaimed behaviour (apply behaviour state (.waitFor eventType))
        ⟨eventType, state.futures.length⟩ event steps
  cancelled : ∀ eventType steps,
    (run behaviour state (.waitFor eventType :: steps)).futures[state.futures.length]? =
        some .cancelled ↔
      GivenUp behaviour (apply behaviour state (.waitFor eventType))
        ⟨eventType, state.futures.length⟩ steps
  present : ∀ eventType steps, ∃ future,
    (run behaviour state (.waitFor eventType :: steps)).futures[state.futures.length]? = some future
  timedOut : ∀ future outcome, state.futures[future]? = some outcome → ∀ steps,
    (run behaviour state (.timeout future :: steps)).futures[future]? =
      some (if outcome = .pending then .cancelled else outcome)

/-- After every sequence of registrations, timeouts, removals and events, the callbacks and waiters
registered and not removed are listed in the order of their registration, every event has been
given to the callbacks listed when it came, and events are delivered as `Delivers` says. -/
theorem delivers_always (behaviour : Behaviour Callback) (steps : List (Step Callback)) :
    (run behaviour {} steps).callbacks = steps.foldl listCallback [] ∧
      ((run behaviour {} steps).waiters, (run behaviour {} steps).futures.length) =
        steps.foldl listWaiter ([], 0) ∧
      given (run behaviour {} steps).calls = deliveries [] steps ∧
      Delivers behaviour (run behaviour {} steps) := by
  have ordered : (run behaviour {} steps).Ordered := ordered_initial.run behaviour steps
  refine ⟨run_callbacks behaviour {} steps, run_waiters behaviour {} steps,
    run_calls behaviour {} steps, ?_⟩
  exact
    { notified := onNotification_eq_run behaviour _
      callbacks := given_onNotification behaviour _
      waiters := ordered.dispatched behaviour
      resolved := fun eventType steps event => by
        rw [run_cons]
        exact (ordered.waits_new behaviour eventType).resolved_iff
          (ordered.apply behaviour _) steps
      cancelled := fun eventType steps => by
        rw [run_cons]
        exact (ordered.waits_new behaviour eventType).cancelled_iff
          (ordered.apply behaviour _) steps
      present := fun eventType steps => by
        rw [run_cons]
        refine ⟨_, List.getElem?_eq_getElem (lt_of_lt_of_le ?_ (length_le_run behaviour _ steps))⟩
        simp [Dispatch.apply]
      timedOut := fun future outcome created steps => run_timeout behaviour created steps }

end Runs

/-! ## Waiters for overlapping classes -/

/-- An event of the lid, and one of the paper. -/
def lidOpens : DeviceEvent := ⟨0x05, [0x1a, 0x05, 0x99], .lid .opened⟩
def paperEnds : DeviceEvent := ⟨0x06, [0x1a, 0x06, 0x88], .paper .absent⟩

/-- The first callback raises every time. -/
def firstRaises : Behaviour Nat := fun _ callback _ =>
  if callback = 0 then .error (.valueError "") else .ok ()

/-- Two wait for the lid and one in between for any event.  The lid opens twice; then the waiter of
the paper is given up, and the paper ends. -/
def overlapping : List (Step Nat) :=
  [.onEvent 0, .onEvent 1, .waitFor .lidEvent, .waitFor .deviceEvent, .waitFor .lidEvent,
    .event lidOpens, .event lidOpens, .remove ⟨.lidEvent, 0⟩, .removeCallback 0,
    .waitFor .paperEvent, .timeout 3, .event paperEnds, .event lidOpens]

theorem delivers_always_overlapping :
    (run firstRaises {} overlapping).callbacks = [1] ∧
      (run firstRaises {} overlapping).waiters =
        [⟨.deviceEvent, 1⟩, ⟨.lidEvent, 2⟩, ⟨.paperEvent, 3⟩] ∧
      (run firstRaises {} overlapping).futures =
        [.result lidOpens, .result lidOpens, .result lidOpens, .cancelled] ∧
      given (run firstRaises {} overlapping).calls =
        [(0, lidOpens), (1, lidOpens), (0, lidOpens), (1, lidOpens), (1, paperEnds),
          (1, lidOpens)] ∧
      Delivers firstRaises (run firstRaises {} overlapping) := by
  obtain ⟨callbacks, waiters, calls, delivers⟩ := delivers_always firstRaises overlapping
  exact ⟨callbacks, (Prod.mk.inj waiters).1, by decide +kernel, calls, delivers⟩

end Dispatch

end Phomemo
